import PageWatch.Unicode.CharSet

/-!
# Regular expressions without spelling

Once switches are applied and classes are computed, a regular expression is one of eight things
(`Expr`). The functions of part 3 build expressions in the form in which a program is made from
them: sequences hold no empty part and no two literals side by side, a class of one character is
a literal, branches that are all characters or all classes are one class, and **what all branches
begin with stands once, before the branches**.

The last of these rules is part of the meaning: `.+?a|.+?b` finds `xb` in `xba`, because it is
`.+?(a|b)`. The size limit of `PageWatch.Regex.Footprint` is measured on this form too.
-/

namespace PageWatch.Regex

open PageWatch.Unicode

/-! ## 1. Expressions -/

/-- A condition on the place between two characters. -/
inductive Place where
  | textStart
  | textEnd
  | lineStart
  | lineEnd
  | crlfLineStart
  | crlfLineEnd
  | wordEdge (unicode : Bool)
  | noWordEdge (unicode : Bool)
  | wordStart (unicode : Bool)
  | wordEnd (unicode : Bool)
  | wordStartHalf (unicode : Bool)
  | wordEndHalf (unicode : Bool)
  deriving Repr, DecidableEq

/-- A regular expression. A class knows whether it was spelled with Unicode switched on: two
    classes spelled differently do not count as one, even with the same members. -/
inductive Expr where
  | empty
  | literal (text : List Char)
  | set (s : CharSet) (unicode : Bool)
  | place (p : Place)
  | rep (min : Nat) (max : Option Nat) (greedy : Bool) (sub : Expr)
  | capture (sub : Expr)
  | seq (parts : List Expr)
  | alt (branches : List Expr)
  deriving Inhabited

/-! ## 2. What expressions match, and when they are one -/

mutual

/-- Matches nothing but the empty text: repeating it more than once adds nothing. -/
def Expr.onlyEmpty : Expr → Bool
  | .empty => true
  | .place _ => true
  | .literal _ => false
  | .set _ _ => false
  | .rep _ max _ sub => max.isSome && sub.onlyEmpty
  | .capture sub => sub.onlyEmpty
  | .seq parts => Expr.allOnlyEmpty parts
  | .alt branches => Expr.allOnlyEmpty branches

/-- As `Expr.onlyEmpty`, of every member. -/
def Expr.allOnlyEmpty : List Expr → Bool
  | [] => true
  | e :: rest => e.onlyEmpty && Expr.allOnlyEmpty rest

end

mutual

/-- A number of characters that every match has at least; `none` if a part of the expression, be
    it one branch of several, matches nothing at all. -/
def Expr.minLength? : Expr → Option Nat
  | .empty => some 0
  | .literal text => some text.length
  | .set s _ => if s.isEmpty then none else some 1
  | .place _ => some 0
  | .rep min _ _ sub => sub.minLength?.map (min * ·)
  | .capture sub => sub.minLength?
  | .seq parts => Expr.minLengthOfAll? parts
  | .alt branches => Expr.leastMinLength? branches

/-- The sum of the members' numbers. -/
def Expr.minLengthOfAll? : List Expr → Option Nat
  | [] => some 0
  | e :: rest => do
    let n ← e.minLength?
    let m ← Expr.minLengthOfAll? rest
    pure (n + m)

/-- The least of the members' numbers. -/
def Expr.leastMinLength? : List Expr → Option Nat
  | [] => none
  | [e] => e.minLength?
  | e :: rest => do
    let n ← e.minLength?
    let m ← Expr.leastMinLength? rest
    pure (Nat.min n m)

end

/-- Every match has at least one character. -/
def Expr.neverEmpty (e : Expr) : Bool :=
  match e.minLength? with
  | some n => 0 < n
  | none => false

mutual

/-- The two are one expression, spelled twice. A capture is never one with another: each has a
    number of its own. -/
def Expr.same : Expr → Expr → Bool
  | .empty, .empty => true
  | .literal a, .literal b => a == b
  | .set a u, .set b v => a == b && u == v
  | .place p, .place q => p == q
  | .rep min max greedy a, .rep min' max' greedy' b =>
    min == min' && max == max' && greedy == greedy' && a.same b
  | .seq as, .seq bs => Expr.allSame as bs
  | .alt as, .alt bs => Expr.allSame as bs
  | _, _ => false

/-- As `Expr.same`, member by member. -/
def Expr.allSame : List Expr → List Expr → Bool
  | [], [] => true
  | a :: as, b :: bs => a.same b && Expr.allSame as bs
  | _, _ => false

end

mutual

/-- The number of expressions that an expression is put together from, itself included. -/
def Expr.weight : Expr → Nat
  | .rep _ _ _ sub => sub.weight + 1
  | .capture sub => sub.weight + 1
  | .seq parts => Expr.weightOfAll parts + 1
  | .alt branches => Expr.weightOfAll branches + 1
  | _ => 1

/-- The weights of all members together. -/
def Expr.weightOfAll : List Expr → Nat
  | [] => 0
  | e :: rest => e.weight + Expr.weightOfAll rest

end

/-! ## 3. Building expressions -/

/-- The expression that matches nothing. -/
def Expr.nothing : Expr := .set .empty false

/-- A class: one of a single character is that character. -/
def Expr.ofSet (unicode : Bool) (s : CharSet) : Expr :=
  if s.isEmpty then .nothing
  else
    match s.single? with
    | some c => .literal [c]
    | none => .set s unicode

/-- The character of an expression that is one character. -/
def Expr.asChar? : Expr → Option Char
  | .literal [c] => some c
  | _ => none

/-- The members of an expression that is a class. -/
def Expr.asSet? : Expr → Option CharSet
  | .set s _ => some s
  | _ => none

/-- Puts a part before others: a literal joins the literal behind it. -/
def Expr.prepend : Expr → List Expr → List Expr
  | .literal a, .literal b :: rest => .literal (a ++ b) :: rest
  | e, rest => e :: rest

/-- Parts that follow each other. -/
def Expr.ofParts (parts : List Expr) : Expr :=
  let flat := parts.flatMap fun
    | .seq inner => inner
    | .empty => []
    | e => [e]
  match flat.foldr Expr.prepend [] with
  | [] => .empty
  | [e] => e
  | es => .seq es

/-- How many parts two sequences have in common at their start. -/
def Expr.commonStart : List Expr → List Expr → Nat
  | a :: as, b :: bs => if a.same b then Expr.commonStart as bs + 1 else 0
  | _, _ => 0

/-- The parts of a sequence, and of nothing else. -/
def Expr.parts? : Expr → Option (List Expr)
  | .seq parts => some parts
  | _ => none

/-- What all branches begin with, and what is left of each, if all are sequences that have a
    start in common. -/
def Expr.sharedStart? (branches : List Expr) : Option (List Expr × List (List Expr)) :=
  match branches.mapM Expr.parts? with
  | none => none
  | some [] => none
  | some (first :: rest) =>
    match rest.foldl (fun n parts => Nat.min n (Expr.commonStart first parts)) first.length with
    | 0 => none
    | n => some (first.take n, (first :: rest).map (·.drop n))

/-- Branches as one expression. What they share is taken out before them, and the branches that
    are left are joined the same way. Every such step makes all branches lighter, so their weight
    is fuel enough. -/
def Expr.joinBranches : (fuel : Nat) → List Expr → Expr
  | 0, branches => .alt branches
  | fuel + 1, branches =>
    let flat := branches.flatMap fun
      | .alt inner => inner
      | e => [e]
    match flat with
    | [] => .nothing
    | [e] => e
    | es =>
      match es.mapM Expr.asChar?, es.mapM Expr.asSet?, Expr.sharedStart? es with
      | some chars, _, _ => .ofSet true (CharSet.ofChars chars)
      | _, some sets, _ => .ofSet true (CharSet.unionAll sets)
      | _, _, some (start, rests) =>
        .ofParts (start ++ [Expr.joinBranches fuel (rests.map Expr.ofParts)])
      | _, _, none => .alt es

/-- Branches, the earlier ones preferred. -/
def Expr.ofBranches (branches : List Expr) : Expr :=
  .joinBranches (Expr.weightOfAll branches + 1) branches

/-- A repetition. What can only be empty is repeated at most once, and no repetition at all is
    the empty expression. -/
def Expr.repeated (min : Nat) (max : Option Nat) (greedy : Bool) (sub : Expr) : Expr :=
  let (min, max) :=
    if sub.onlyEmpty then (Nat.min min 1, some (Nat.min (max.getD 1) 1)) else (min, max)
  if max = some 0 then .empty
  else if min = 1 ∧ max = some 1 then sub
  else .rep min max greedy sub

end PageWatch.Regex
