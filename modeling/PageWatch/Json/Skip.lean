import PageWatch.Json.Number
import PageWatch.Json.Text

/-!
# Passing over values

A field that nobody asked for is passed over, whatever its value is. Main definition:
`skipValue`. Only the grammar is checked: **numbers may have any size, surrogates may stand alone
and brackets may nest to any depth**. The brackets that are open are kept on a stack.
-/

namespace PageWatch.Json

/-- The blanks that may stand between the parts of a JSON text. -/
def isJsonBlank (c : Char) : Bool := c = ' ' || c = '\n' || c = '\t' || c = '\r'

/-- The text from the first character that is not blank. -/
def skipBlanks (cs : List Char) : List Char := cs.dropWhile isJsonBlank

/-- What follows a word at the start of a text. -/
def afterWord? (word : List Char) (cs : List Char) : Option (List Char) :=
  if word.isPrefixOf cs then some (cs.drop word.length) else none

/-- A bracket that is open. -/
inductive Bracket where
  | array
  | object

/-- The end of an object's key: its text and the colon behind it. -/
def skipKey (cs : List Char) : Option (List Char) :=
  match skipBlanks cs with
  | '"' :: rest =>
    match (skipText rest).map skipBlanks with
    | some (':' :: rest) => some rest
    | _ => none
  | _ => none

/-- One step in passing over a value. `inside` tells that a value has just ended, inside the
    innermost open bracket. Gives whether a value has just ended, what is open, and the rest. -/
def skipStep (ended : Bool) (brackets : List Bracket) (cs : List Char) :
    Option (Bool × List Bracket × List Char) :=
  if ended then
    match brackets, cs with
    | .array :: outer, ']' :: rest => some (true, outer, rest)
    | .array :: outer, ',' :: rest => some (false, .array :: outer, rest)
    | .object :: outer, '\x7D' :: rest => some (true, outer, rest)
    | .object :: outer, ',' :: rest =>
      (skipKey rest).map fun rest => (false, .object :: outer, rest)
    | _, _ => none
  else
    match cs with
    | 'n' :: rest => (afterWord? ['u', 'l', 'l'] rest).map fun rest => (true, brackets, rest)
    | 't' :: rest => (afterWord? ['r', 'u', 'e'] rest).map fun rest => (true, brackets, rest)
    | 'f' :: rest => (afterWord? ['a', 'l', 's', 'e'] rest).map fun rest => (true, brackets, rest)
    | '"' :: rest => (skipText rest).map fun rest => (true, brackets, rest)
    | '[' :: rest =>
      match skipBlanks rest with
      | ']' :: rest => some (true, brackets, rest)
      | rest => some (false, .array :: brackets, rest)
    | '\x7B' :: rest =>
      match skipBlanks rest with
      | '\x7D' :: rest => some (true, brackets, rest)
      | rest => (skipKey rest).map fun rest => (false, .object :: brackets, rest)
    | cs => (skipNumber cs).map fun rest => (true, brackets, rest)

/-- Passes over what is left of a value while brackets are open. Every step makes the text
    shorter; where one did not, the text would be refused. -/
def skipLoop (ended : Bool) (brackets : List Bracket) (cs : List Char) : Option (List Char) :=
  match skipStep ended brackets (skipBlanks cs) with
  | none => none
  | some (true, [], rest) => some rest
  | some (ended, brackets, rest) =>
    if _h : rest.length < cs.length then skipLoop ended brackets rest else none
termination_by cs.length

/-- **What follows the value at the start of a text.** -/
def skipValue (cs : List Char) : Option (List Char) := skipLoop false [] cs

end PageWatch.Json
