import PageWatch.Decimal.Shortest
import PageWatch.Text.Quoted

/-!
# What can be wrong with a JSON text

A text is either no JSON (`Failure.malformed`, without details) or it is JSON so far and does
not fit what is read (`Failure.mismatch`). Main definition: `Mismatch.message`, the wording of
every kind of misfit.
-/

namespace PageWatch.Json

/-- A value that was met where another kind of value was wanted. -/
inductive Found where
  | null
  | bool (b : Bool)
  | integer (n : Int)
  | float (x : Float)
  | string (s : String)
  | sequence
  | map

def Found.description : Found → String
  | .null => "null"
  | .bool b => "boolean \x60" ++ (if b then "true" else "false") ++ "\x60"
  | .integer n => "integer \x60" ++ toString n ++ "\x60"
  | .float x => "floating point \x60" ++ Decimal.text x ++ "\x60"
  | .string s => "string " ++ Text.Quoted.quote s
  | .sequence => "sequence"
  | .map => "map"

/-- How a value does not fit. -/
inductive Mismatch where
  | wrongType (found : Found) (wanted : String)
  | outOfRange (n : Int) (wanted : String)
  | duplicateField (name : String)
  | missingField (name : String)
  | wrongLength (length : Nat) (wanted : String)
  | unknownVariant (name : String) (known : List String)
  | refused (reason : String)

/-- Names in marks, the last two joined by `or`. -/
def choices : List String → String
  | [] => ""
  | [name] => "\x60" ++ name ++ "\x60"
  | [a, b] => "\x60" ++ a ++ "\x60 or \x60" ++ b ++ "\x60"
  | name :: rest => "\x60" ++ name ++ "\x60, " ++ choices rest

def Mismatch.message : Mismatch → String
  | .wrongType found wanted =>
    "invalid type: " ++ found.description ++ ", expected " ++ wanted
  | .outOfRange n wanted =>
    "invalid value: " ++ (Found.integer n).description ++ ", expected " ++ wanted
  | .duplicateField name => "duplicate field \x60" ++ name ++ "\x60"
  | .missingField name => "missing field \x60" ++ name ++ "\x60"
  | .wrongLength length wanted =>
    "invalid length " ++ toString length ++ ", expected " ++ wanted
  | .unknownVariant name known =>
    "unknown variant \x60" ++ name ++ "\x60, expected " ++ choices known
  | .refused reason => reason

/-- Why a JSON text cannot be read. -/
inductive Failure where
  | malformed
  | mismatch (m : Mismatch)

end PageWatch.Json
