import PageWatch.Json.Text

/-!
# Writing JSON

The values this library writes, and their compact text (`Value.render`): no blanks, members in
the order given.
-/

namespace PageWatch.Json

/-- A value that can be written. -/
inductive Value where
  | bool (b : Bool)
  | natural (n : Nat)
  | string (s : String)
  | array (elements : List Value)
  | object (members : List (String × Value))

mutual

/-- **The compact text of a value.** -/
def Value.render : Value → String
  | .bool b => if b then "true" else "false"
  | .natural n => toString n
  | .string s => writeText s
  | .array elements => "[" ++ Value.renderElements elements ++ "]"
  | .object members => "\x7B" ++ Value.renderMembers members ++ "\x7D"

/-- Elements with commas between them. -/
def Value.renderElements : List Value → String
  | [] => ""
  | [v] => v.render
  | v :: rest => v.render ++ "," ++ Value.renderElements rest

/-- Members with commas between them. -/
def Value.renderMembers : List (String × Value) → String
  | [] => ""
  | [(name, v)] => writeText name ++ ":" ++ v.render
  | (name, v) :: rest => writeText name ++ ":" ++ v.render ++ "," ++ Value.renderMembers rest

end

end PageWatch.Json
