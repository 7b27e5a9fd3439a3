/-!
# Numbers in JSON

A number without fraction and exponent is an integer if 64 bits hold it; any other number, and
`-0`, is a floating point number. Main definitions: `readNumber` and `skipNumber`.

The value of a floating point number is found in two steps: its leading digits are gathered as
long as 64 bits hold them, the later ones only count as tens; then **the gathered number is
rounded once and multiplied with, or divided by, a power of ten, which rounds once more**. A
number that becomes infinite is refused.
-/

namespace PageWatch.Json

/-- A number that was read. -/
inductive Number where
  | natural (n : Nat)
  | negative (n : Nat)
  | float (x : Float)

/-- The largest number that 64 bits hold. -/
def maxWord : Nat := UInt64.size - 1

/-- The digits at the start of a text, and the rest. -/
def spanDigits (cs : List Char) : List Char × List Char := cs.span Char.isDigit

/-- The value of a digit. -/
def digitValue (c : Char) : Nat := c.toNat - '0'.toNat

/-! ## 1. The spelling -/

/-- A number as it is spelled. `fraction` and `exponent` are `none` if there is none. -/
structure Spelling where
  negative : Bool
  whole : List Char
  fraction : Option (List Char)
  exponent : Option (Bool × List Char)

/-- The digits before the point: `0`, or digits that do not begin with `0`. -/
def readWhole (cs : List Char) : Option (List Char × List Char) :=
  match spanDigits cs with
  | ([], _) => none
  | (['0'], rest) => some (['0'], rest)
  | ('0' :: _, _) => none
  | (ds, rest) => some (ds, rest)

/-- The digits behind a point, of which there is at least one. -/
def readFraction (cs : List Char) : Option (Option (List Char) × List Char) :=
  match cs with
  | '.' :: rest =>
    match spanDigits rest with
    | ([], _) => none
    | (ds, rest) => some (some ds, rest)
  | _ => some (none, cs)

/-- Whether the exponent is negative, and its digits, of which there is at least one. -/
def readExponent (cs : List Char) : Option (Option (Bool × List Char) × List Char) :=
  let digits := fun (negative : Bool) (cs : List Char) =>
    match spanDigits cs with
    | ([], _) => none
    | (ds, rest) => some (some (negative, ds), rest)
  let signed := fun (cs : List Char) =>
    match cs with
    | '+' :: rest => digits false rest
    | '-' :: rest => digits true rest
    | cs => digits false cs
  match cs with
  | 'e' :: rest => signed rest
  | 'E' :: rest => signed rest
  | cs => some (none, cs)

/-- The spelling of the number at the start of a text, and the rest. -/
def readSpelling (cs : List Char) : Option (Spelling × List Char) := do
  let (negative, cs) :=
    match cs with
    | '-' :: rest => (true, rest)
    | _ => (false, cs)
  let (whole, cs) ← readWhole cs
  let (fraction, cs) ← readFraction cs
  let (exponent, cs) ← readExponent cs
  pure (⟨negative, whole, fraction, exponent⟩, cs)

/-! ## 2. The value -/

/-- Digits gathered while 64 bits hold them, and how many more tens the number has. -/
structure Gathered where
  digits : Nat
  tens : Int

/-- Gathers the digits before the point: from the first one that does not fit, each counts as a
    ten. -/
def gatherWhole : (full : Bool) → Gathered → List Char → Gathered
  | _, g, [] => g
  | true, g, _ :: rest => gatherWhole true ⟨g.digits, g.tens + 1⟩ rest
  | false, g, c :: rest =>
    let n := g.digits * 10 + digitValue c
    if maxWord < n then gatherWhole true ⟨g.digits, g.tens + 1⟩ rest
    else gatherWhole false ⟨n, g.tens⟩ rest

/-- Gathers the digits behind the point, up to the first one that does not fit. -/
def gatherFraction : Gathered → List Char → Gathered
  | g, [] => g
  | g, c :: rest =>
    let n := g.digits * 10 + digitValue c
    if maxWord < n then g else gatherFraction ⟨n, g.tens - 1⟩ rest

/-- `10^n`, rounded. -/
def powerOfTen (n : Nat) : Float := Float.ofScientific 1 false n

/-- The number divided by `10^n`, in steps of at most `10^308`. -/
def dividedByTens (x : Float) (n : Nat) : Float :=
  if n ≤ 308 then x / powerOfTen n
  else if x == 0 then x
  else dividedByTens (x / powerOfTen 308) (n - 308)
termination_by n

/-- The gathered digits with their tens; `none` if the number is infinite. -/
def Gathered.float? (g : Gathered) : Option Float :=
  let x := g.digits.toUInt64.toFloat
  match g.tens with
  | .ofNat n =>
    if n ≤ 308 then
      let y := x * powerOfTen n
      if y.isInf then none else some y
    else if g.digits = 0 then some x
    else none
  | .negSucc n => some (dividedByTens x (n + 1))

/-- The largest exponent that is counted; a larger one is as good as infinite. -/
def maxExponent : Nat := UInt32.size / 2 - 1

/-- The value of a spelling without its sign, as a floating point number. -/
def Spelling.float? (s : Spelling) : Option Float :=
  let g := gatherWhole false ⟨0, 0⟩ s.whole
  let g := match s.fraction with
    | none => g
    | some ds => gatherFraction g ds
  match s.exponent with
  | none => g.float?
  | some (negative, ds) =>
    let e := ds.foldl (fun n c => n * 10 + digitValue c) 0
    if maxExponent < e then if g.digits = 0 || negative then some 0 else none
    else if negative then Gathered.float? ⟨g.digits, g.tens - e⟩
    else Gathered.float? ⟨g.digits, g.tens + e⟩

/-- The value of a spelling. -/
def Spelling.number? (s : Spelling) : Option Number :=
  let n := s.whole.foldl (fun n c => n * 10 + digitValue c) 0
  let isWhole := s.fraction.isNone && s.exponent.isNone
  if isWhole && !s.negative && n ≤ maxWord then some (.natural n)
  else if isWhole && s.negative && 0 < n && n ≤ UInt64.size / 2 then some (.negative n)
  else s.float?.map fun x => .float (if s.negative then -x else x)

/-- **The number at the start of a text**, and the rest. -/
def readNumber (cs : List Char) : Option (Number × List Char) := do
  let (s, rest) ← readSpelling cs
  let n ← s.number?
  pure (n, rest)

/-- What follows a number that is passed over: its size does not matter. -/
def skipNumber (cs : List Char) : Option (List Char) := (readSpelling cs).map (·.2)

end PageWatch.Json
