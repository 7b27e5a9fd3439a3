import PageWatch.Unicode.Age
import PageWatch.Unicode.Break
import PageWatch.Unicode.CaseFold
import PageWatch.Unicode.Category
import PageWatch.Unicode.Property
import PageWatch.Unicode.Script

/-!
# Sets of characters by name

A class such as `\p{Greek}` or `\p{scx=Latin}` names a set by a property of the standard.
Main definitions: `Query`, the two forms of such a name, and `Query.set?`, its characters.
Names are compared loosely (`looseName`): case, blanks, `_`, `-` and a leading `is` do not count.

The classes that have an escape of their own (`digits`, `blanks`, `wordChars`) close the file.
-/

namespace PageWatch.Unicode

/-- The name as it is compared: ASCII in lower case, without separators and without a leading
    `is`. `isc` keeps its letters, being a name of its own and not the name `c`. -/
def looseName (name : String) : String :=
  let body := fun cs : List Char =>
    (cs.filter fun c => c.toNat < 0x80 && c != ' ' && c != '_' && c != '-').map Char.toLower
  match name.toList with
  | i :: s :: rest =>
    if i.toLower = 'i' && s.toLower = 's' then
      if body rest = ['c'] then "isc" else String.ofList (body rest)
    else String.ofList (body (i :: s :: rest))
  | cs => String.ofList (body cs)

/-- How a class of characters can be asked for: by a bare name, or by a property and a value. -/
inductive Query where
  | named (name : String)
  | valued (property value : String)
  deriving Repr, DecidableEq

/-- A bare name is a yes-or-no property, else a general category, else a script. `cf`, `sc` and
    `lc` are categories, although properties go by them too. -/
def bareSet? (name : String) : Option CharSet :=
  let property := if name ∈ ["cf", "sc", "lc"] then none else propertySets.find? name
  property <|> category? name <|> scriptSets.find? name

/-- The set of the characters for which a property has the value. -/
def valuedSet? (property value : String) : Option CharSet :=
  if property ∈ ["gc", "generalcategory"] then category? value
  else if property ∈ ["sc", "script"] then scriptSets.find? value
  else if property ∈ ["scx", "scriptextensions"] then scriptExtensionSets.find? value
  else if property = "age" then age? value
  else if property ∈ ["gcb", "graphemeclusterbreak"] then graphemeBreakSets.find? value
  else if property ∈ ["wb", "wordbreak"] then wordBreakSets.find? value
  else if property ∈ ["sb", "sentencebreak"] then sentenceBreakSets.find? value
  else none

/-- **The characters a query stands for**; `none` if the standard knows no such name. -/
def Query.set? : Query → Option CharSet
  | .named name => bareSet? (looseName name)
  | .valued property value => valuedSet? (looseName property) (looseName value)

/-- The decimal digits of every script. -/
def digits : CharSet := categorySets.get "nd"

/-- The characters with the White_Space property. -/
def blanks : CharSet := propertySets.get "whitespace"

/-- The characters that words are made of: letters, marks, decimal digits, connecting
    punctuation and the two joiners. -/
def wordChars : CharSet :=
  CharSet.unionAll [propertySets.get "alphabetic", categoryUnion ["mn", "mc", "me"],
    digits, categorySets.get "pc", propertySets.get "joincontrol"]

end PageWatch.Unicode
