import PageWatch.Json.Reader
import PageWatch.Json.Writer
import PageWatch.Pattern.Outcome
import PageWatch.Pattern.Rules

/-!
# Rules and outcomes as JSON

For each type, the value it is written as (`toJson`) and the reader that takes it back
(`reader`). Rules that are left out have their default; **the fields of an outcome may not be
missing**.
-/

namespace PageWatch.Pattern

open PageWatch.Json

/-! ## 1. Rules -/

def Rules.toJson (r : Rules) : Value :=
  .object
    [("max_nesting_depth", .natural r.maxNesting), ("validate_regex_syntax", .bool r.compileAhead)]

/-- Reads a nesting depth. -/
def readDepth : Reader Nat := readNatural maxWord "usize"

def Rules.fields : List (StructField Rules) :=
  [.of "max_nesting_depth" readDepth fun n r => { r with maxNesting := n },
   .of "validate_regex_syntax" readBool fun b r => { r with compileAhead := b }]

def Rules.reader : Reader Rules := readStructWithDefaults "struct ParserOptions" Rules.fields {}

/-! ## 2. Outcomes -/

def Outcome.toJson (o : Outcome) : Value :=
  .object [("found", .bool o.found), ("matches", .array (o.matched.map .string))]

/-- An outcome of which fields may still be missing. -/
structure PartialOutcome where
  found : Option Bool := none
  matched : Option (List String) := none

def PartialOutcome.fields : List (StructField PartialOutcome) :=
  [.of "found" readBool fun b o => { o with found := some b },
   .of "matches" (readList readString) fun ms o => { o with matched := some ms }]

/-- The outcome of which every field was given. -/
def PartialOutcome.complete (o : PartialOutcome) (form : Form) : Except Failure Outcome :=
  match form, o.found, o.matched with
  | _, some found, some matched => .ok ⟨found, matched⟩
  | .array count, _, _ => misfit (.wrongLength count "struct MatchOutcome with 2 elements")
  | .object, none, _ => misfit (.missingField "found")
  | .object, some _, none => misfit (.missingField "matches")

def Outcome.reader : Reader Outcome := fun cs =>
  match readStruct "struct MatchOutcome" PartialOutcome.fields {} cs with
  | .error e => .error e
  | .ok ((o, form), rest) => (o.complete form).map fun o => (o, rest)

/-! ## 3. Names -/

def LeafKind.toJson (k : LeafKind) : Value := .string k.name

def LeafKind.reader : Reader LeafKind :=
  readVariant [(LeafKind.string.name, .string), (LeafKind.regex.name, .regex)]

/-- The name of an operator in JSON. -/
def Operator.name : Operator → String
  | .and => "And"
  | .or => "Or"

def Operator.toJson (op : Operator) : Value := .string op.name

def Operator.reader : Reader Operator :=
  readVariant [(Operator.and.name, .and), (Operator.or.name, .or)]

end PageWatch.Pattern
