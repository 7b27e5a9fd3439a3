/-!
# The shortest decimal that reads back

A binary floating point number is `m · 2^q`. Among the decimals that read back as the same
number this file finds one with the fewest digits, and of those the nearest
(`Decimal.shortest`). All arithmetic is exact, on natural numbers.

`Decimal.text` is the notation built on it: **positional for decimal exponents from -5 to 15,
with at least one decimal, and otherwise with an exponent and its sign** (`1e+16`, `1.5e-7`).
-/

namespace PageWatch.Decimal

/-- A positive fraction. -/
structure Fraction where
  num : Nat
  den : Nat

/-- `n · 2^q`. -/
def Fraction.scaled (n : Nat) (q : Int) : Fraction :=
  match q with
  | .ofNat k => ⟨n <<< k, 1⟩
  | .negSucc k => ⟨n, 1 <<< (k + 1)⟩

/-- `n · 10^e`. -/
def Fraction.decimal (n : Nat) (e : Int) : Fraction :=
  match e with
  | .ofNat k => ⟨n * Nat.pow 10 k, 1⟩
  | .negSucc k => ⟨n, Nat.pow 10 (k + 1)⟩

/-- The first fraction is below the second, or not above it if `orEqual` holds. -/
def Fraction.below (orEqual : Bool) (a b : Fraction) : Bool :=
  if orEqual then a.num * b.den ≤ b.num * a.den else a.num * b.den < b.num * a.den

/-- The distance of two fractions. -/
def Fraction.distance (a b : Fraction) : Fraction :=
  ⟨(a.num * b.den - b.num * a.den) + (b.num * a.den - a.num * b.den), a.den * b.den⟩

/-- A positive finite floating point number `m · 2^q`. `lowest` marks the least `m` of a power of
    two, below which the neighbours stand half as far apart. -/
structure Binary where
  m : Nat
  q : Int
  lowest : Bool

/-- The number itself, as a fraction. -/
def Binary.value (b : Binary) : Fraction := .scaled (4 * b.m) (b.q - 2)

/-- The decimal reads back as the number: it lies between the middles to both neighbours, which
    themselves read back as the number with the even `m`. -/
def Binary.readsBack (b : Binary) (d : Fraction) : Bool :=
  let even := b.m % 2 = 0
  let low := Fraction.scaled (4 * b.m - if b.lowest then 1 else 2) (b.q - 2)
  let high := Fraction.scaled (4 * b.m + 2) (b.q - 2)
  Fraction.below even low d && Fraction.below even d high

/-- The decimal exponent of a fraction: `10^e` is at most the fraction and `10^(e+1)` above it.
    The search starts at `e` and takes at most `fuel` steps either way. -/
def exponentFrom (f : Fraction) : (fuel : Nat) → (e : Int) → Int
  | 0, e => e
  | fuel + 1, e =>
    if Fraction.below false f (.decimal 1 e) then exponentFrom f fuel (e - 1)
    else if Fraction.below true (.decimal 1 (e + 1)) f then exponentFrom f fuel (e + 1)
    else e

/-- A decimal `digits · 10^exponent`. -/
structure Digits where
  digits : Nat
  exponent : Int

/-- The nearer one to the number of the two decimals with `n` digits next to it, if it reads
    back; of two equally near ones the even one. -/
def Binary.withDigits (b : Binary) (top : Int) (n : Nat) : Option Digits :=
  let v := b.value
  let e := top - n + 1
  let unit := Fraction.decimal 1 e
  let k := v.num * unit.den / (v.den * unit.num)
  let near := fun k => Fraction.distance v (.decimal k e)
  let candidates := [k, k + 1].filter fun k => b.readsBack (.decimal k e)
  match candidates with
  | [] => none
  | [k] => some ⟨k, e⟩
  | k :: k' :: _ =>
    if Fraction.below false (near k) (near k') then some ⟨k, e⟩
    else if Fraction.below false (near k') (near k) then some ⟨k', e⟩
    else some ⟨if k % 2 = 0 then k else k', e⟩

/-- **The shortest decimal that reads back as the number**; seventeen digits always do. -/
def Binary.shortest (b : Binary) : Digits :=
  let top := exponentFrom b.value 700 0
  ((List.range 17).findSome? fun n => b.withDigits top (n + 1)).getD ⟨b.m, 0⟩

/-- Takes zeros off the end of the digits. -/
def Digits.stripped (fuel : Nat) (d : Digits) : Digits :=
  match fuel with
  | 0 => d
  | fuel + 1 =>
    if d.digits % 10 = 0 then Digits.stripped fuel ⟨d.digits / 10, d.exponent + 1⟩ else d

/-- The notation of a positive decimal. -/
def Digits.text (d : Digits) : String :=
  let d := d.stripped 20
  let ds := Nat.toDigits 10 d.digits
  let top := d.exponent + ds.length - 1
  if -5 ≤ top && top ≤ 15 then
    if 0 ≤ d.exponent then
      String.ofList (ds ++ List.replicate d.exponent.toNat '0' ++ ['.', '0'])
    else if 0 ≤ top then
      String.ofList (ds.take (top.toNat + 1) ++ ['.'] ++ ds.drop (top.toNat + 1))
    else
      String.ofList (['0', '.'] ++ List.replicate ((-top).toNat - 1) '0' ++ ds)
  else
    let mantissa := match ds with
      | [d] => [d]
      | d :: more => d :: '.' :: more
      | [] => []
    let sign := if 0 ≤ top then '+' else '-'
    String.ofList (mantissa ++ ['e', sign] ++ Nat.toDigits 10 top.natAbs)

/-- A positive finite floating point number, taken apart. -/
def Binary.ofBits (bits : Nat) : Binary :=
  let fraction := bits % (1 <<< 52)
  let power : Nat := (bits >>> 52) % (1 <<< 11)
  if power = 0 then ⟨fraction, -1074, false⟩
  else ⟨1 <<< 52 + fraction, (power : Int) - 1075, fraction = 0 && 1 < power⟩

/-- **The notation of a floating point number** that is not infinite. -/
def text (x : Float) : String :=
  let bits := x.toBits.toNat
  let size := bits % (1 <<< 63)
  let sign := if bits = size then "" else "-"
  sign ++ if size = 0 then "0.0" else (Binary.ofBits size).shortest.text

end PageWatch.Decimal
