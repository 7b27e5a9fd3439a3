import PageWatch.Regex.ByteRows
import PageWatch.Regex.Expr
import Std.Data.HashMap

/-!
# How large an expression is

A regular expression is refused if its automaton over bytes would take more than `sizeLimit`,
be it the automaton that reads forwards or the one that reads backwards. This file lays out both,
state by state, and keeps of each only how many states there are and what their edges take
(`Size`). **A size only grows**: laying out stops with `none` as soon as the limit is passed, so a
huge count of copies costs no more time than an automaton of the largest size.

* Fixed parts (literals, places, alternatives of literals) have a size of their own.
* A class that is not ASCII is a tree of byte rows. Forwards, equal states of the tree are shared;
  backwards, the rows share what they begin with. What is shared is looked up in a table of a
  fixed number of slots (`SharedStates`), in which a later state displaces an earlier one, so the
  size of such a class depends on the number of its first state.
* Counted repetitions are laid out copy by copy.
-/

namespace PageWatch.Regex

open PageWatch.Unicode

/-! ## 1. Sizes -/

/-- Ten mebibytes. -/
def sizeLimit : Nat := 10 * 1024 * 1024

/-- The size of one state. -/
def stateSize : Nat := 32

/-- The size of one labelled edge of a state with several. -/
def edgeSize : Nat := 8

/-- The size of one unlabelled branch. -/
def branchSize : Nat := 4

/-- How many states there are, and what their edges and branches take. -/
structure Size where
  states : Nat
  edges : Nat
  deriving Repr, DecidableEq

/-- No states. -/
def Size.zero : Size := ⟨0, 0⟩

/-- Two sizes together. -/
def Size.add (a b : Size) : Size := ⟨a.states + b.states, a.edges + b.edges⟩

/-- One state with some labelled edges. A single edge is kept in the state itself. -/
def Size.labelled (n : Nat) : Size := ⟨1, if n ≤ 1 then 0 else edgeSize * n⟩

/-- A state that branches in two ways. -/
def Size.choice : Size := ⟨1, 2 * branchSize⟩

/-- Everything in bytes. -/
def Size.bytes (z : Size) : Nat := stateSize * z.states + z.edges

/-- The size itself, if it is within the limit. -/
def Size.within? (z : Size) : Option Size := if z.bytes ≤ sizeLimit then some z else none

/-- The way an automaton reads. -/
inductive Direction where
  | forwards
  | backwards
  deriving Repr, DecidableEq

/-! ## 2. Alternatives of literals -/

/-- The bytes of a word, in the order in which they are read. -/
def Direction.bytes (d : Direction) (text : List Char) : List UInt8 :=
  let bytes := text.flatMap String.utf8EncodeChar
  match d with
  | .forwards => bytes
  | .backwards => bytes.reverse

/-- Cuts a list of words at the empty ones. -/
def cutAtEmpty : List (List UInt8) → List (List (List UInt8))
  | [] => [[]]
  | [] :: words => [] :: cutAtEmpty words
  | w :: words =>
    match cutAtEmpty words with
    | first :: more => (w :: first) :: more
    | [] => [[w]]

/-- What follows a first byte in the words that begin with it, for each first byte. -/
def tailsByHead (words : List (List UInt8)) : List (List (List UInt8)) :=
  (words.filterMap List.head?).eraseDups.map fun b =>
    words.filterMap fun
      | c :: rest => if c = b then some rest else none
      | [] => none

/-- The states of a tree of words, without its end. A word that ends where others go on divides
    the others into those before it and those after it, which are preferred less: the two share
    no states. At the start, where none has gone on, words that end count once. -/
def wordTreeSize : (depth : Nat) → List (List UInt8) → Size
  | 0, _ => .zero
  | depth + 1, words =>
    let later := words.dropWhile List.isEmpty
    if later.isEmpty then .zero
    else
      let pieces := cutAtEmpty later
      let ends := pieces.length - 1 + (if words.head? = some [] then 1 else 0)
      let groups := (pieces.filter (!·.isEmpty)).map tailsByHead
      let here : Size := ⟨1, branchSize * (groups.length + ends)⟩
      groups.foldl (fun z heads =>
        heads.foldl (fun z tails => z.add (wordTreeSize depth tails))
          (z.add (.labelled heads.length))) here

/-- The size of an alternative of literals. -/
def wordsSize (words : List (List UInt8)) : Size :=
  Size.add ⟨1, 0⟩ (wordTreeSize (words.foldl (fun n w => Nat.max n w.length) 0) words)

/-! ## 3. Shared states of a class -/

/-- A layout within one class. `known` holds in each slot the state last put there, by what makes
    it one with another (`key`), and its number. -/
structure SharedStates where
  size : Size
  known : Std.HashMap Nat (List Nat × Nat)

/-- A slot for a key. The numbers are stirred in one after another: each is combined bit by bit
    with what is there, and the whole is multiplied by a prime modulo `2^64`. -/
def slotOf (slots : Nat) (key : List Nat) : Nat :=
  let stirred := key.foldl (fun (h : UInt64) n => (h ^^^ n.toUInt64) * 1099511628211)
    14695981039346656037
  stirred.toNat % slots

/-- Adds a state, puts it into a slot, and gives its number. -/
def SharedStates.add (slot : Nat) (key : List Nat) (edges : Nat) : SharedStates →
    Nat × SharedStates
  | ⟨size, known⟩ =>
    (size.states, ⟨size.add ⟨1, edges⟩, known.insert slot (key, size.states)⟩)

/-- The number of the state with this key: the one known in its slot, or a new one. -/
def SharedStates.state (slots : Nat) (key : List Nat) (edges : Nat) (shared : SharedStates) :
    Nat × SharedStates :=
  let slot := slotOf slots key
  match shared.known[slot]? with
  | some (known, number) => if known = key then (number, shared) else shared.add slot key edges
  | none => shared.add slot key edges

/-- Lays out a tree of rows whose last bytes lead to `target`: first what is below the groups, one
    group after another, then the state that leads to them. -/
def layRows (target : Nat) : (depth : Nat) → List ByteRow → SharedStates → Nat × SharedStates
  | 0, _, shared => (target, shared)
  | depth + 1, rows, shared =>
    match groupRows rows with
    | [] => (target, shared)
    | groups =>
      let (key, shared) := groups.foldl (fun (key, shared) ((lo, hi), tails) =>
          let (number, shared) := layRows target depth tails shared
          (number :: hi :: lo :: key, shared)) (([], shared) : List Nat × SharedStates)
      shared.state 10000 key.reverse (edgeSize * groups.length)

/-- Lays out a row from its first byte on, which is the last one read: each state leads to the
    one before it. -/
def layRowBackwards : (before : Nat) → ByteRow → SharedStates → SharedStates
  | _, [], shared => shared
  | before, (lo, hi) :: row, shared =>
    let (number, shared) := shared.state 1000 [before, lo, hi] 0
    layRowBackwards number row shared

/-- Lays out a class. -/
def laySet (d : Direction) (s : CharSet) (z : Size) : Size :=
  if s.isAscii then z.add ⟨2, edgeSize * s.intervals.size⟩
  else
    let rows := byteRows s
    match d with
    | .forwards => (layRows z.states 4 rows ⟨z.add ⟨1, 0⟩, ∅⟩).2.size
    | .backwards =>
      let start : SharedStates := ⟨z.add ⟨2, branchSize * rows.length⟩, ∅⟩
      (rows.foldl (fun shared row => layRowBackwards (z.states + 1) row shared) start).size

/-! ## 4. Expressions -/

/-- Lays out copies one after another. -/
def Size.copies (layOne : Size → Option Size) : Nat → Size → Option Size
  | 0, z => some z
  | n + 1, z =>
    match layOne z with
    | none => none
    | some z => Size.copies layOne n z

/-- The words of branches that are all literals. -/
def Expr.words? (d : Direction) (branches : List Expr) : Option (List (List UInt8)) :=
  branches.mapM fun
    | .literal text => some (d.bytes text)
    | _ => none

mutual

/-- Lays out an expression behind what is there already. -/
def Expr.lay (d : Direction) : Expr → Size → Option Size
  | .empty, z => (z.add ⟨1, 0⟩).within?
  | .literal text, z => (z.add ⟨(d.bytes text).length, 0⟩).within?
  | .set s _, z => (laySet d s z).within?
  | .place _, z => (z.add ⟨1, 0⟩).within?
  | .capture sub, z =>
    match d with
    | .forwards => do
      let z ← sub.lay d (z.add ⟨1, 0⟩)
      (z.add ⟨1, 0⟩).within?
    | .backwards => sub.lay d z
  | .seq parts, z => Expr.laySeq d parts z
  | .alt branches, z =>
    match Expr.words? d branches with
    | some words => (z.add (wordsSize words)).within?
    | none => Expr.layBranches d 2 ⟨2, branchSize * branches.length⟩ branches z
  | .rep min none _ sub, z =>
    if min = 0 then
      if sub.neverEmpty then sub.lay d (z.add .choice)
      else do
        let z ← sub.lay d z
        (z.add ⟨3, 4 * branchSize⟩).within?
    else do
      let z ← Size.copies (sub.lay d) min z
      (z.add .choice).within?
  | .rep min (some max) _ sub, z =>
    if min = max then Size.copies (sub.lay d) min z
    else if max = 1 then do
      let z ← sub.lay d (z.add .choice)
      (z.add ⟨1, 0⟩).within?
    else do
      let z ← if min = 0 then some (z.add ⟨1, 0⟩) else Size.copies (sub.lay d) min z
      Size.copies (fun z => sub.lay d (z.add .choice)) (max - min) (z.add ⟨1, 0⟩)

/-- Lays out parts that follow each other, in the order in which they are read. -/
def Expr.laySeq (d : Direction) : List Expr → Size → Option Size
  | [], z => some z
  | e :: rest, z =>
    match d with
    | .forwards => do
      let z ← e.lay d z
      Expr.laySeq d rest z
    | .backwards => do
      let z ← Expr.laySeq d rest z
      e.lay d z

/-- Lays out branches. What joins them comes behind the first `ahead` of them. -/
def Expr.layBranches (d : Direction) : (ahead : Nat) → (joint : Size) → List Expr → Size →
    Option Size
  | _, joint, [], z => (z.add joint).within?
  | 0, joint, e :: rest, z => do
    let z ← e.lay d (z.add joint)
    Expr.layBranches d 0 .zero rest z
  | ahead + 1, joint, e :: rest, z => do
    let z ← e.lay d z
    Expr.layBranches d ahead joint rest z

end

/-! ## 5. The limit -/

mutual

/-- Every match begins where reading begins: at the start of the text forwards, at its end
    backwards. -/
def Expr.anchored (d : Direction) : Expr → Bool
  | .place p =>
    match d with
    | .forwards => p == .textStart
    | .backwards => p == .textEnd
  | .rep min _ _ sub => 0 < min && sub.anchored d
  | .capture sub => sub.anchored d
  | .seq parts => Expr.anchoredSeq d parts
  | .alt branches => Expr.allAnchored d branches
  | _ => false

/-- As `Expr.anchored`, of parts that follow each other: one of them is, and what is read before
    it can only be empty. -/
def Expr.anchoredSeq (d : Direction) : List Expr → Bool
  | [] => false
  | e :: rest =>
    match d with
    | .forwards => e.anchored d || (e.onlyEmpty && Expr.anchoredSeq d rest)
    | .backwards => Expr.anchoredSeq d rest || (Expr.allOnlyEmpty rest && e.anchored d)

/-- As `Expr.anchored`, of every member. -/
def Expr.allAnchored (d : Direction) : List Expr → Bool
  | [] => true
  | e :: rest => e.anchored d && Expr.allAnchored d rest

end

/-- What comes before the expression itself: one state if it is anchored, else the loop that skips
    to where a match begins. -/
def Expr.startSize (d : Direction) (e : Expr) : Size :=
  if e.anchored d then ⟨1, 0⟩ else Size.add .choice ⟨2, edgeSize⟩

/-- The size of the whole automaton, with the capture that is the match and the state that
    accepts; `none` beyond the limit. -/
def Expr.size? (d : Direction) (e : Expr) : Option Size := do
  let z ← (Expr.capture e).lay d (e.startSize d)
  (z.add ⟨1, 0⟩).within?

/-- **Neither automaton is larger than the limit.** -/
def Expr.fits (e : Expr) : Bool := (e.size? .forwards).isSome && (e.size? .backwards).isSome

end PageWatch.Regex
