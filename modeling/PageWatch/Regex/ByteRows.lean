import PageWatch.Unicode.CharSet

/-!
# Classes as rows of byte ranges

An automaton that reads bytes sees a class of characters as rows: a row is a range of bytes for
each byte of an encoding, and stands for all encodings it covers. `byteRows` gives the fewest rows
that cover a class, in ascending order. Rows that begin alike make one tree, whose levels are the
groups of `groupRows`.
-/

namespace PageWatch.Regex

open PageWatch.Unicode

/-! ## 1. Rows -/

/-- A range of bytes, both ends included. -/
abbrev ByteRange := Nat × Nat

/-- A range for each byte of an encoding. -/
abbrev ByteRow := List ByteRange

/-- The rows for the values from `lo` to `hi`, written as a leading unit and `k` more of six bits
    each. -/
def unitRows : (k : Nat) → (lo hi : Nat) → List ByteRow
  | 0, lo, hi => [[(lo, hi)]]
  | k + 1, lo, hi =>
    let m := 64 ^ (k + 1)
    let a := lo / m
    let b := hi / m
    let under := fun (unit lo hi : Nat) =>
      (unitRows k lo hi).map fun row => (unit, unit) :: row
    if a = b then under a (lo % m) (hi % m)
    else
      let first := if lo % m = 0 then [] else under a (lo % m) (m - 1)
      let last := if hi % m = m - 1 then [] else under b 0 (hi % m)
      let a' := if lo % m = 0 then a else a + 1
      let b' := if hi % m = m - 1 then b + 1 else b
      let middle := if a' < b' then [(a', b' - 1) :: List.replicate (k + 1) (0, 63)] else []
      first ++ middle ++ last

/-- The rows of the characters whose encoding has one leading byte, from `lead` on, and `k`
    more. -/
def rowsOfLength (k lead lo hi : Nat) (i : Interval) : List ByteRow :=
  let a := max lo i.lo
  let b := min hi i.hi
  if a ≤ b then
    (unitRows k a b).map fun
      | (x, y) :: more => (x + lead, y + lead) :: more.map fun (x, y) => (x + 0x80, y + 0x80)
      | [] => []
  else []

/-- **A set of characters as rows**, in ascending order. -/
def byteRows (s : CharSet) : List ByteRow :=
  s.intervals.toList.flatMap fun i =>
    rowsOfLength 0 0 0 0x7F i ++ rowsOfLength 1 0xC0 0x80 0x7FF i ++
      rowsOfLength 2 0xE0 0x800 0xFFFF i ++ rowsOfLength 3 0xF0 0x10000 maxCodePoint i

/-! ## 2. Trees of rows -/

/-- Gathers neighbouring rows that begin with the same range. -/
def groupRows : List ByteRow → List (ByteRange × List ByteRow)
  | [] => []
  | [] :: rows => groupRows rows
  | (r :: row) :: rows =>
    match groupRows rows with
    | (r', tails) :: groups =>
      if r = r' then (r, row :: tails) :: groups else (r, [row]) :: (r', tails) :: groups
    | [] => [(r, [row])]

end PageWatch.Regex
