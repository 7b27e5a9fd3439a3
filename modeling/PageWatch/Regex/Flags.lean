import PageWatch.Regex.Expr
import PageWatch.Regex.Tree

/-!
# What a regular expression means under its flags

The tree of a regular expression becomes an expression by applying the flags that hold at each
place (`Node.exprFrom?`). A switch holds from where it stands to the end of its group, across the
bars of the group. Main definitions: `ClassTree.set?`, the characters of a class, and
`Expr.ofNode?`.

With Unicode switched off, classes hold ASCII characters only: whatever would let one match
half a character (a negated class, `.`, `\D`, a byte above `7F`) is refused with `none`.
-/

namespace PageWatch.Regex

open PageWatch.Unicode

/-! ## 1. Flags -/

/-- The switches that hold at a place of an expression. -/
structure Flags where
  ignoreCase : Bool
  multiLine : Bool
  dotAll : Bool
  swapGreed : Bool
  unicode : Bool
  crlf : Bool
  deriving Repr, DecidableEq

/-- The flags at the start: Unicode, and nothing else. -/
def Flags.start : Flags := ⟨false, false, false, false, true, false⟩

/-- The flags after one switch. -/
def Flags.set (f : Flags) (s : Setting) : Flags :=
  match s.switch with
  | .ignoreCase => { f with ignoreCase := s.on }
  | .multiLine => { f with multiLine := s.on }
  | .dotAll => { f with dotAll := s.on }
  | .swapGreed => { f with swapGreed := s.on }
  | .unicode => { f with unicode := s.on }
  | .crlf => { f with crlf := s.on }
  | .ignoreBlanks => f

/-- The flags after some switches. -/
def Flags.setAll (f : Flags) (items : List Setting) : Flags := items.foldl Flags.set f

/-! ## 2. Classes -/

/-- The case variants of the members, if case is ignored. -/
def Flags.fold (f : Flags) (s : CharSet) : CharSet :=
  if f.ignoreCase then if f.unicode then s.foldClosure else s.asciiFoldClosure else s

/-- The set or its complement; without Unicode only ASCII sets are allowed. -/
def Flags.negate? (f : Flags) (negated : Bool) (s : CharSet) : Option CharSet :=
  let s := if negated then s.complement else s
  if f.unicode || s.isAscii then some s else none

/-- First the case variants, then the complement. -/
def Flags.foldNegate? (f : Flags) (negated : Bool) (s : CharSet) : Option CharSet :=
  f.negate? negated (f.fold s)

/-- The characters of a shorthand class, which are closed under case as they are. -/
def Flags.shorthand? (f : Flags) (negated : Bool) (kind : Shorthand) : Option CharSet :=
  f.negate? negated <|
    match kind, f.unicode with
    | .digit, true => digits
    | .blank, true => blanks
    | .word, true => wordChars
    | .digit, false => CharSet.range '0' '9'
    | .blank, false => CharSet.ofChars [' ', '\t', '\n', '\x0B', '\x0C', '\r']
    | .word, false => CharSet.unionAll
        [.range '0' '9', .range 'A' 'Z', .range 'a' 'z', .singleton '_']

/-- The characters of a property class. -/
def Flags.property? (f : Flags) (negated : Bool) (query : Query) : Option CharSet :=
  if f.unicode then query.set?.bind (f.foldNegate? negated) else none

/-- A literal in a class: without Unicode it must be ASCII. -/
def Flags.member? (f : Flags) (l : Literal) : Option Char :=
  if f.unicode || l.char.toNat < 0x80 then some l.char else none

/-- How two sides of a class combine. -/
def ClassOp.apply : ClassOp → CharSet → CharSet → CharSet
  | .inter => CharSet.inter
  | .diff => CharSet.diff
  | .symmDiff => CharSet.symmDiff

mutual

/-- The characters that stand between the brackets of a class, before the brackets' own
    negation. -/
def ClassTree.set? (f : Flags) : ClassTree → Option CharSet
  | .nothing => some .empty
  | .literal l => (f.member? l).map .singleton
  | .range first last => do
    let a ← f.member? first
    let b ← f.member? last
    pure (.range a b)
  | .posix negated members => f.foldNegate? negated members
  | .property negated query => f.property? negated query
  | .shorthand negated kind => f.shorthand? negated kind
  | .bracketed negated inner => do
    let s ← inner.set? f
    f.foldNegate? negated s
  | .union items => (ClassTree.setsOf? f items).map CharSet.unionAll
  | .binary op lhs rhs => do
    let a ← lhs.set? f
    let b ← rhs.set? f
    pure (op.apply (f.fold a) (f.fold b))

/-- The sets of all the items. -/
def ClassTree.setsOf? (f : Flags) : List ClassTree → Option (List CharSet)
  | [] => some []
  | item :: rest => do
    let s ← item.set? f
    let sets ← ClassTree.setsOf? f rest
    pure (s :: sets)

end

/-! ## 3. Expressions -/

/-- A literal character, or the class of its case variants. Without Unicode only ASCII letters
    have variants, and a byte above `7F` is refused. -/
def Flags.literal? (f : Flags) (l : Literal) : Option Expr :=
  if !f.unicode && l.twoDigits && 0x80 ≤ l.char.toNat then none
  else if f.ignoreCase then
    if f.unicode then some (.ofSet true (CharSet.singleton l.char).foldClosure)
    else some (.ofSet false (CharSet.ofChars (asciiVariants l.char)))
  else some (.literal [l.char])

/-- What the dot matches: any character but the line ends, or simply any. -/
def Flags.dot? (f : Flags) : Option Expr :=
  if !f.unicode then none
  else if f.dotAll then some (.set .all true)
  else if f.crlf then some (.set (CharSet.ofChars ['\n', '\r']).complement true)
  else some (.set (CharSet.singleton '\n').complement true)

/-- The condition that an anchor stands for. -/
def Flags.place (f : Flags) : Anchor → Place
  | .lineStart =>
    if f.multiLine then if f.crlf then .crlfLineStart else .lineStart else .textStart
  | .lineEnd => if f.multiLine then if f.crlf then .crlfLineEnd else .lineEnd else .textEnd
  | .textStart => .textStart
  | .textEnd => .textEnd
  | .wordEdge => .wordEdge f.unicode
  | .noWordEdge => .noWordEdge f.unicode
  | .wordStart => .wordStart f.unicode
  | .wordEnd => .wordEnd f.unicode
  | .wordStartHalf => .wordStartHalf f.unicode
  | .wordEndHalf => .wordEndHalf f.unicode

mutual

/-- The expression a tree means where the given flags hold, and the flags after it. -/
def Node.exprFrom? (f : Flags) : Node → Option (Expr × Flags)
  | .empty => some (.empty, f)
  | .settings items => some (.empty, f.setAll items)
  | .literal l => (f.literal? l).map (·, f)
  | .dot => f.dot?.map (·, f)
  | .anchor a => some (.place (f.place a), f)
  | .property negated query => (f.property? negated query).map (.ofSet f.unicode ·, f)
  | .shorthand negated kind => (f.shorthand? negated kind).map (.ofSet f.unicode ·, f)
  | .bracketed negated inner => do
    let s ← inner.set? f
    let s ← f.foldNegate? negated s
    pure (.ofSet f.unicode s, f)
  | .rep min max greedy sub => do
    let (e, _) ← sub.exprFrom? f
    pure (.repeated min max (greedy != f.swapGreed) e, f)
  | .group captures items sub => do
    let (e, _) ← sub.exprFrom? (f.setAll items)
    pure (if captures then .capture e else e, f)
  | .alt branches => do
    let (es, f) ← Node.exprsFrom? f branches
    pure (.ofBranches es, f)
  | .seq parts => do
    let (es, f) ← Node.exprsFrom? f parts
    pure (.ofParts es, f)

/-- The expressions of trees that stand one after another: each leaves its flags to the next. -/
def Node.exprsFrom? (f : Flags) : List Node → Option (List Expr × Flags)
  | [] => some ([], f)
  | node :: rest => do
    let (e, f) ← node.exprFrom? f
    let (es, f) ← Node.exprsFrom? f rest
    pure (e :: es, f)

end

/-- **The expression that a whole tree means.** -/
def Expr.ofNode? (node : Node) : Option Expr := (node.exprFrom? Flags.start).map (·.1)

end PageWatch.Regex
