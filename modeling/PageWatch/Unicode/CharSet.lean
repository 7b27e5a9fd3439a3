/-!
# Sets of characters

A set of characters is kept as its intervals of code points, ascending and never touching.
This file fixes

* the type and its membership test (`CharSet.contains`);
* the algebra: `union`, `inter`, `diff`, `symmDiff` and `complement`, all relative to the
  **scalar values** (`0`–`D7FF` and `E000`–`10FFFF`): a surrogate code point is in no set;
* the written form of a set, rows of `lo-hi` in hexadecimal (`CharSet.ofRows`), in which the
  tables of this folder are spelled, and tables of such rows under names (`NamedSets`).
-/

namespace PageWatch.Unicode

/-! ## 1. Intervals -/

/-- The code points from `lo` to `hi`, both included. -/
structure Interval where
  lo : Nat
  hi : Nat
  deriving Repr, DecidableEq, Inhabited

/-- The largest code point. -/
def maxCodePoint : Nat := 0x10FFFF

/-- The parts of an interval that hold scalar values: the surrogates are cut out. -/
def Interval.scalarParts (i : Interval) : List Interval :=
  let below : Interval := ⟨i.lo, min i.hi 0xD7FF⟩
  let above : Interval := ⟨max i.lo 0xE000, min i.hi maxCodePoint⟩
  [below, above].filter fun j => j.lo ≤ j.hi

/-- Joins what overlaps or touches in a list that ascends by lower end. -/
def coalesce : Interval → List Interval → List Interval
  | cur, [] => [cur]
  | cur, i :: rest =>
    if i.lo ≤ cur.hi + 1 then coalesce ⟨cur.lo, max cur.hi i.hi⟩ rest
    else cur :: coalesce i rest

/-- What an ascending list leaves out, from `start` to the largest code point. -/
def gaps : Nat → List Interval → List Interval
  | start, [] => if start ≤ maxCodePoint then [⟨start, maxCodePoint⟩] else []
  | start, i :: rest =>
    if start < i.lo then ⟨start, i.lo - 1⟩ :: gaps (i.hi + 1) rest else gaps (i.hi + 1) rest

/-! ## 2. Sets -/

/-- A set of characters, as ascending intervals of code points that do not touch. -/
structure CharSet where
  intervals : Array Interval
  deriving Repr, DecidableEq, Inhabited

namespace CharSet

/-- The set that the given intervals cover together, in whatever order they come. -/
def ofIntervals (is : List Interval) : CharSet :=
  match (is.flatMap Interval.scalarParts).mergeSort (fun a b => a.lo ≤ b.lo) with
  | [] => ⟨#[]⟩
  | i :: rest => ⟨(coalesce i rest).toArray⟩

/-- The characters from one to another, both included. -/
def range (a b : Char) : CharSet := ofIntervals [⟨a.toNat, b.toNat⟩]

/-- The set of one character. -/
def singleton (c : Char) : CharSet := range c c

/-- The set of the listed characters. -/
def ofChars (cs : List Char) : CharSet := ofIntervals (cs.map fun c => ⟨c.toNat, c.toNat⟩)

/-- The set of nothing. -/
def empty : CharSet := ⟨#[]⟩

/-- The set of all characters. -/
def all : CharSet := ofIntervals [⟨0, maxCodePoint⟩]

/-- No character is in the set. -/
def isEmpty (s : CharSet) : Bool := s.intervals.isEmpty

/-- Every member is below `n`. -/
def allBelow (s : CharSet) (n : Nat) : Bool :=
  match s.intervals.back? with
  | none => true
  | some i => i.hi < n

/-- Every member is an ASCII character. -/
def isAscii (s : CharSet) : Bool := s.allBelow 0x80

/-- The one member of a set that has exactly one. -/
def single? (s : CharSet) : Option Char :=
  if s.intervals.size = 1 then
    match s.intervals[0]? with
    | some i => if i.lo = i.hi then some (Char.ofNat i.lo) else none
    | none => none
  else none

/-- Whether an interval with an index in `[lo, hi)` holds `n`: the intervals ascend, so each
    look at the middle one halves the search. -/
def search (is : Array Interval) (n lo hi : Nat) : Bool :=
  if _h : lo < hi then
    let mid := (lo + hi) / 2
    match is[mid]? with
    | none => false
    | some i =>
      if n < i.lo then search is n lo mid
      else if i.hi < n then search is n (mid + 1) hi
      else true
  else false
termination_by hi - lo

/-- The code point is in the set. -/
def holds (s : CharSet) (n : Nat) : Bool := search s.intervals n 0 s.intervals.size

/-- The character is in the set. -/
def contains (s : CharSet) (c : Char) : Bool := s.holds c.toNat

/-! ## 3. Algebra -/

/-- The characters in either set. -/
def union (s t : CharSet) : CharSet := ofIntervals (s.intervals.toList ++ t.intervals.toList)

/-- The characters in some set of the list. -/
def unionAll (ss : List CharSet) : CharSet := ofIntervals (ss.flatMap (·.intervals.toList))

/-- The characters not in the set. -/
def complement (s : CharSet) : CharSet := ofIntervals (gaps 0 s.intervals.toList)

/-- The characters in both sets. -/
def inter (s t : CharSet) : CharSet := (s.complement.union t.complement).complement

/-- The characters of the first set that are not in the second. -/
def diff (s t : CharSet) : CharSet := s.inter t.complement

/-- The characters in exactly one of the two sets. -/
def symmDiff (s t : CharSet) : CharSet := (s.diff t).union (t.diff s)

/-! ## 4. The written form -/

/-- The value of a hexadecimal digit. -/
def hexDigit? (c : Char) : Option Nat :=
  if '0' ≤ c && c ≤ '9' then some (c.toNat - '0'.toNat)
  else if 'A' ≤ c && c ≤ 'F' then some (c.toNat - 'A'.toNat + 10)
  else if 'a' ≤ c && c ≤ 'f' then some (c.toNat - 'a'.toNat + 10)
  else none

/-- Reads rows of `lo-hi` and single code points, separated by whatever is neither a digit nor
    a hyphen. `lo` is the lower end once a hyphen was met, `acc` the number being read. -/
def readRows : (lo acc : Option Nat) → List Char → List Interval
  | lo, acc, [] =>
    match acc with
    | none => []
    | some n => [⟨lo.getD n, n⟩]
  | lo, acc, c :: rest =>
    match hexDigit? c with
    | some d => readRows lo (some (acc.getD 0 * 16 + d)) rest
    | none =>
      if c = '-' then readRows acc none rest
      else
        match acc with
        | none => readRows lo none rest
        | some n => ⟨lo.getD n, n⟩ :: readRows none none rest

/-- The set that rows of `lo-hi` in hexadecimal spell out. -/
def ofRows (rows : String) : CharSet := ofIntervals (readRows none none rows.toList)

end CharSet

/-! ## 5. Tables -/

/-- Sets in written form, each under every name it goes by. -/
abbrev NamedSets := List (List String × String)

/-- The set that goes by the name, if there is one. -/
def NamedSets.find? (table : NamedSets) (name : String) : Option CharSet :=
  (List.find? (fun entry => entry.1.contains name) table).map fun entry => CharSet.ofRows entry.2

/-- The set that goes by the name, which is known to be in the table. -/
def NamedSets.get (table : NamedSets) (name : String) : CharSet := (table.find? name).getD .empty

end PageWatch.Unicode
