import PageWatch.Unicode.Query

/-!
# Regular expressions as they are spelled

The tree of a regular expression keeps what its spelling says and nothing about its meaning:
a switch such as `(?i)` is a node of its own, and a class is the tree of its brackets. What a
tree matches is fixed in `PageWatch.Regex.Flags`; how a text becomes a tree in
`PageWatch.Regex.Reader`. Main definition besides the types: `Node.depth`, the nesting that the
reader bounds.
-/

namespace PageWatch.Regex

open PageWatch.Unicode

/-! ## 1. Switches -/

/-- What a letter between `(?` and `)` switches. -/
inductive Switch where
  | ignoreCase
  | multiLine
  | dotAll
  | swapGreed
  | unicode
  | crlf
  | ignoreBlanks
  deriving Repr, DecidableEq

/-- A switch turned on or off. -/
structure Setting where
  switch : Switch
  on : Bool
  deriving Repr, DecidableEq

/-- The letter of each switch. -/
def Switch.ofLetter? : Char → Option Switch
  | 'i' => some .ignoreCase
  | 'm' => some .multiLine
  | 's' => some .dotAll
  | 'U' => some .swapGreed
  | 'u' => some .unicode
  | 'R' => some .crlf
  | 'x' => some .ignoreBlanks
  | _ => none

/-! ## 2. Classes -/

/-- One character as it is spelled. `twoDigits` marks the spelling `\xHH`, which means a byte
    where Unicode is switched off. -/
structure Literal where
  char : Char
  twoDigits : Bool
  deriving Repr, DecidableEq

/-- The classes that have a one-letter escape. -/
inductive Shorthand where
  | digit
  | blank
  | word
  deriving Repr, DecidableEq

/-- How two sides of a class combine: `&&`, `--` and `~~`. -/
inductive ClassOp where
  | inter
  | diff
  | symmDiff
  deriving Repr, DecidableEq

/-- What stands between the brackets of a class. -/
inductive ClassTree where
  | nothing
  | literal (l : Literal)
  | range (first last : Literal)
  | posix (negated : Bool) (members : CharSet)
  | property (negated : Bool) (query : Query)
  | shorthand (negated : Bool) (kind : Shorthand)
  | bracketed (negated : Bool) (inner : ClassTree)
  | union (items : List ClassTree)
  | binary (op : ClassOp) (lhs rhs : ClassTree)
  deriving Inhabited

/-- The tree of a list of items: one item stands for itself. -/
def ClassTree.ofItems : List ClassTree → ClassTree
  | [] => .nothing
  | [item] => item
  | items => .union items

/-! ## 3. Expressions -/

/-- A place in the text, as it is spelled. -/
inductive Anchor where
  | lineStart
  | lineEnd
  | textStart
  | textEnd
  | wordEdge
  | noWordEdge
  | wordStart
  | wordEnd
  | wordStartHalf
  | wordEndHalf
  deriving Repr, DecidableEq

/-- A regular expression as it is spelled. -/
inductive Node where
  | empty
  | settings (items : List Setting)
  | literal (l : Literal)
  | dot
  | anchor (a : Anchor)
  | property (negated : Bool) (query : Query)
  | shorthand (negated : Bool) (kind : Shorthand)
  | bracketed (negated : Bool) (inner : ClassTree)
  | rep (min : Nat) (max : Option Nat) (greedy : Bool) (sub : Node)
  | group (captures : Bool) (items : List Setting) (sub : Node)
  | alt (branches : List Node)
  | seq (parts : List Node)
  deriving Inhabited

/-- The tree of parts that follow each other: one part stands for itself. -/
def Node.ofParts : List Node → Node
  | [] => .empty
  | [part] => part
  | parts => .seq parts

/-- The tree of branches between bars: one branch stands for itself. -/
def Node.ofBranches : List Node → Node
  | [] => .empty
  | [branch] => branch
  | branches => .alt branches

/-- A repetition needs something to repeat: neither nothing nor a switch will do. -/
def Node.isRepeatable : Node → Bool
  | .empty => false
  | .settings _ => false
  | _ => true

/-! ## 4. Nesting -/

mutual

/-- How deep the brackets, unions and operators of a class nest. -/
def ClassTree.depth : ClassTree → Nat
  | .bracketed _ inner => inner.depth + 1
  | .union items => ClassTree.depthOfAll items + 1
  | .binary _ lhs rhs => max lhs.depth rhs.depth + 1
  | _ => 0

/-- The greatest depth in a list of items. -/
def ClassTree.depthOfAll : List ClassTree → Nat
  | [] => 0
  | item :: rest => max item.depth (ClassTree.depthOfAll rest)

end

mutual

/-- How deep groups, repetitions, bars, sequences and classes nest. -/
def Node.depth : Node → Nat
  | .bracketed _ inner => inner.depth + 1
  | .rep _ _ _ sub => sub.depth + 1
  | .group _ _ sub => sub.depth + 1
  | .alt branches => Node.depthOfAll branches + 1
  | .seq parts => Node.depthOfAll parts + 1
  | _ => 0

/-- The greatest depth in a list of trees. -/
def Node.depthOfAll : List Node → Nat
  | [] => 0
  | node :: rest => max node.depth (Node.depthOfAll rest)

end

end PageWatch.Regex
