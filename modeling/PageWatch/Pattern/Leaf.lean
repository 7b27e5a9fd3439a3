import PageWatch.Pattern.Fault
import PageWatch.Pattern.Quotation
import PageWatch.Regex.Engine
import PageWatch.Text.Blank

/-!
# Leaves

A leaf looks for one text or for the matches of one regular expression. Main definitions: `Leaf`,
and `Leaf.ofRaw`, which reads the text of a leaf token: an optional kind before a colon
(`regex:\d+`), then the pattern, plain or quoted.

A leaf remembers its compiled regular expression once it has one. **The memory is derived from
the pattern**, so it takes no part in comparing or showing leaves.
-/

namespace PageWatch.Pattern

open PageWatch.Text

/-! ## 1. Kinds -/

/-- How a leaf's pattern is looked for. -/
inductive LeafKind where
  | string
  | regex
  deriving Repr, DecidableEq, Inhabited

/-- The word for a kind. -/
def LeafKind.name : LeafKind → String
  | .string => "string"
  | .regex => "regex"

/-- The kind that a word names; ASCII letters may have either case. -/
def LeafKind.ofWord? (word : List Char) : Option LeafKind :=
  let lower := word.map Char.toLower
  if lower = LeafKind.string.name.toList then some .string
  else if lower = LeafKind.regex.name.toList then some .regex
  else none

/-! ## 2. Leaves -/

/-- A leaf of a search expression. -/
structure Leaf where
  kind : LeafKind
  pattern : String
  compiled : Option Regex
  deriving Inhabited

/-- A leaf that remembers nothing yet. -/
def Leaf.fresh (kind : LeafKind) (pattern : String) : Leaf := ⟨kind, pattern, none⟩

/-- The leaf without its memory. -/
def Leaf.forget (l : Leaf) : Leaf := { l with compiled := none }

/-- The leaf has its compiled regular expression. -/
def Leaf.hasRegex (l : Leaf) : Bool := l.compiled.isSome

/-- Same kind and same pattern. -/
def Leaf.same (a b : Leaf) : Bool := a.kind = b.kind && a.pattern = b.pattern

section Regexes

variable [Regex.Engine]

/-- The regular expression of a pattern. -/
def compileRegex (pattern : String) : Except RegexError Regex :=
  match Regex.Engine.compile pattern with
  | .ok r => .ok r
  | .error reason => .error ⟨pattern, reason⟩

/-- The compiled regular expression of a leaf: the remembered one, or else a new one. -/
def Leaf.regex (l : Leaf) : Except RegexError Regex :=
  match l.compiled with
  | some r => .ok r
  | none => compileRegex l.pattern

/-- The leaf with its compiled regular expression remembered, if it has one. -/
def Leaf.remember (l : Leaf) : Leaf :=
  match l.regex with
  | .ok r => { l with compiled := some r }
  | .error _ => l

end Regexes

/-! ## 3. The text of a leaf -/

/-- Splits the kind off before the first colon. Nothing is split off if a side is empty or the
    word names no kind. -/
def splitKind (text : List Char) : Option (LeafKind × List Char) :=
  let word := text.takeWhile (· ≠ ':')
  match text.dropWhile (· ≠ ':') with
  | _ :: body =>
    if word.isEmpty || body.isEmpty then none
    else (LeafKind.ofWord? word).map fun kind => (kind, trim body)
  | [] => none

/-- **The leaf that a leaf token stands for.** Without a kind it is `string`; a quotation stands
    for what it quotes; the pattern must not be empty. -/
def Leaf.ofRaw (raw : String) : Except ParseError Leaf :=
  let text := trim raw.toList
  let (kind, body) := (splitKind text).getD (.string, text)
  let pattern := (unquotedChars? body).getD body
  if pattern.isEmpty then .error (.emptyLeaf raw) else .ok (.fresh kind (String.ofList pattern))

end PageWatch.Pattern
