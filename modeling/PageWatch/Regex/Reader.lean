import PageWatch.Regex.Tree
import PageWatch.Text.Blank
import PageWatch.Unicode.Latest

/-!
# Reading regular expressions

`Node.read` turns the spelling of a regular expression into its tree, or refuses it with
`none`. The reader walks the text once. Open groups and open classes are kept on stacks of
their own (`OpenGroup`, `OpenClass`), so nesting costs no recursion, and **every step gives back
a shorter rest** (the loops test it and stop where it would fail).

Refused are: look-around and back-references, an unknown escape, switch, class name or word
edge, a group or class that is not closed or not opened, a group name that is empty, given twice
or spelled with other characters, a repetition of nothing, a count without digits, beyond
`2^32 - 1` or with its ends exchanged, and nesting deeper than `nestLimit`.

Where blanks are switched to be ignored (`x`), blanks and comments from `#` to the end of the
line are skipped between any two characters that belong together loosely (`skip`).
-/

namespace PageWatch.Regex

open PageWatch.Text PageWatch.Unicode

/-! ## 1. Blanks and comments -/

mutual

/-- The text from the first character that is neither blank nor in a comment. -/
def skipIgnored : List Char → List Char
  | [] => []
  | c :: rest =>
    if isBlank c then skipIgnored rest
    else if c = '#' then skipComment rest
    else c :: rest

/-- As `skipIgnored`, from inside a comment. -/
def skipComment : List Char → List Char
  | [] => []
  | c :: rest => if c = '\n' then skipIgnored rest else skipComment rest

end

/-- The text without what is ignored before it; `x` tells whether anything is. -/
def skip (x : Bool) (cs : List Char) : List Char := if x then skipIgnored cs else cs

/-- The characters up to the closing brace, without the ignored ones, and what follows the
    brace; `inComment` while a comment runs. -/
def readBraced (x : Bool) : (inComment : Bool) → List Char → Option (List Char × List Char)
  | _, [] => none
  | true, c :: rest => readBraced x (c != '\n') rest
  | false, c :: rest =>
    if x && isBlank c then readBraced x false rest
    else if x && c == '#' then readBraced x true rest
    else if c = '}' then some ([], rest)
    else (readBraced x false rest).map fun (body, after) => (c :: body, after)

/-! ## 2. Numbers -/

/-- A count is at most this. -/
def maxCount : Nat := UInt32.size - 1

/-- The decimal digits at the start, without what is ignored between and after them, and the
    rest. -/
def readDigits (x : Bool) : (inComment : Bool) → List Char → List Char × List Char
  | _, [] => ([], [])
  | true, c :: rest => readDigits x (c != '\n') rest
  | false, c :: rest =>
    if c.isDigit then
      let (digits, after) := readDigits x false rest
      (c :: digits, after)
    else if x && isBlank c then readDigits x false rest
    else if x && c == '#' then readDigits x true rest
    else ([], c :: rest)

/-- A decimal count between blanks. The count is `none` if there is no digit or too large a
    number. -/
def readCount (x : Bool) (cs : List Char) : Option Nat × List Char :=
  let (digits, after) := readDigits x false (cs.dropWhile isBlank)
  let n := digits.foldl (fun n c => n * 10 + (c.toNat - '0'.toNat)) 0
  let rest := if x then after else after.dropWhile isBlank
  (if digits.isEmpty || maxCount < n then none else some n, rest)

/-- The character with the code, unless it is a surrogate or too large. -/
def charOfCode? (n : Nat) : Option Char :=
  if n ≤ 0xD7FF || (0xE000 ≤ n && n ≤ maxCodePoint) then some (Char.ofNat n) else none

/-- A fixed number of hexadecimal digits, skipping what is ignored after each. -/
def readHexDigits (x : Bool) : Nat → (acc : Nat) → List Char → Option (Nat × List Char)
  | 0, acc, cs => some (acc, cs)
  | _ + 1, _, [] => none
  | n + 1, acc, c :: rest =>
    match CharSet.hexDigit? c with
    | none => none
    | some d => readHexDigits x n (acc * 16 + d) (skip x rest)

/-- The number that hexadecimal digits spell; `none` without digits or with another character. -/
def hexValue? (digits : List Char) : Option Nat :=
  if digits.isEmpty then none
  else digits.foldl (fun n c => (n.bind fun n => (CharSet.hexDigit? c).map (n * 16 + ·))) (some 0)

/-! ## 3. Escapes -/

/-- What an escape or a lone character spells, inside a class or outside. -/
inductive Primitive where
  | literal (l : Literal)
  | dot
  | anchor (a : Anchor)
  | shorthand (negated : Bool) (kind : Shorthand)
  | property (negated : Bool) (query : Query)

/-- A primitive outside a class. -/
def Primitive.node : Primitive → Node
  | .literal l => .literal l
  | .dot => .dot
  | .anchor a => .anchor a
  | .shorthand negated kind => .shorthand negated kind
  | .property negated query => .property negated query

/-- A primitive as an item of a class, where places in the text mean nothing. -/
def Primitive.item? : Primitive → Option ClassTree
  | .literal l => some (.literal l)
  | .shorthand negated kind => some (.shorthand negated kind)
  | .property negated query => some (.property negated query)
  | .dot => none
  | .anchor _ => none

/-- A character that stands for itself. -/
def Primitive.verbatim (c : Char) : Primitive := .literal ⟨c, false⟩

/-- ASCII characters that are neither letters nor digits may be escaped; `\<` and `\>` have a
    meaning of their own. -/
def isEscapable (c : Char) : Bool :=
  c.toNat < 0x80 && !c.isAlphanum && c != '<' && c != '>'

/-- The rest of a hexadecimal escape after its letter: `width` digits, or any number in
    braces. -/
def readHex (x : Bool) (width : Nat) (cs : List Char) : Option (Primitive × List Char) :=
  match skip x cs with
  | [] => none
  | '{' :: rest => do
    let (body, after) ← readBraced x false rest
    let c ← charOfCode? (← hexValue? body)
    pure (.literal ⟨c, false⟩, after)
  | cs => do
    let (n, after) ← readHexDigits x width 0 cs
    let c ← charOfCode? n
    pure (.literal ⟨c, width == 2⟩, after)

/-- Cuts a list at the first place where `sep` stands. -/
def cutAt? (sep : List Char) : List Char → Option (List Char × List Char)
  | [] => none
  | c :: rest =>
    if sep.isPrefixOf (c :: rest) then some ([], (c :: rest).drop sep.length)
    else (cutAt? sep rest).map fun (before, after) => (c :: before, after)

/-- The query in the braces of a property class: `name`, or a property and a value joined by
    `!=`, `:` or `=`. `!=` negates. -/
def queryOfBody (body : List Char) : Bool × Query :=
  let valued := fun (p : List Char × List Char) =>
    Query.valued (String.ofList p.1) (String.ofList p.2)
  match cutAt? ['!', '='] body, cutAt? [':'] body, cutAt? ['='] body with
  | some p, _, _ => (true, valued p)
  | none, some p, _ => (false, valued p)
  | none, none, some p => (false, valued p)
  | none, none, none => (false, .named (String.ofList body))

/-- The rest of a property class after `\p` or `\P`. -/
def readProperty (x negated : Bool) (cs : List Char) : Option (Primitive × List Char) :=
  match skip x cs with
  | [] => none
  | '{' :: rest => do
    let (body, after) ← readBraced x false rest
    let (differs, query) := queryOfBody body
    pure (.property (negated != differs) query, after)
  | c :: rest =>
    if c = '\\' then none
    else some (.property negated (.named (String.singleton c)), skip x rest)

/-- The word edges that are named in braces after `\b`. -/
def wordEdge? (name : List Char) : Option Anchor :=
  if name = "start".toList then some .wordStart
  else if name = "end".toList then some .wordEnd
  else if name = "start-half".toList then some .wordStartHalf
  else if name = "end-half".toList then some .wordEndHalf
  else none

/-- The rest of a word edge after `\b`. A brace belongs to it if a letter or a hyphen follows;
    any other brace begins a count. -/
def readWordEdge (x : Bool) (cs : List Char) : Option (Primitive × List Char) :=
  match cs with
  | '{' :: rest =>
    match skip x rest with
    | [] => none
    | c :: more =>
      if c.isAlpha || c = '-' then do
        let (name, after) ← readBraced x false (c :: more)
        let a ← wordEdge? name
        pure (.anchor a, after)
      else some (.anchor .wordEdge, cs)
  | _ => some (.anchor .wordEdge, cs)

/-- The rest of an escape after its backslash. -/
def readEscape (x : Bool) : List Char → Option (Primitive × List Char)
  | [] => none
  | c :: rest =>
    match c with
    | 'x' => readHex x 2 rest
    | 'u' => readHex x 4 rest
    | 'U' => readHex x 8 rest
    | 'p' => readProperty x false rest
    | 'P' => readProperty x true rest
    | 'd' => some (.shorthand false .digit, rest)
    | 's' => some (.shorthand false .blank, rest)
    | 'w' => some (.shorthand false .word, rest)
    | 'D' => some (.shorthand true .digit, rest)
    | 'S' => some (.shorthand true .blank, rest)
    | 'W' => some (.shorthand true .word, rest)
    | 'a' => some (.verbatim '\x07', rest)
    | 'f' => some (.verbatim '\x0C', rest)
    | 't' => some (.verbatim '\t', rest)
    | 'n' => some (.verbatim '\n', rest)
    | 'r' => some (.verbatim '\r', rest)
    | 'v' => some (.verbatim '\x0B', rest)
    | 'A' => some (.anchor .textStart, rest)
    | 'z' => some (.anchor .textEnd, rest)
    | 'b' => readWordEdge x rest
    | 'B' => some (.anchor .noWordEdge, rest)
    | '<' => some (.anchor .wordStart, rest)
    | '>' => some (.anchor .wordEnd, rest)
    | c => if isEscapable c then some (.verbatim c, rest) else none

/-! ## 4. Classes -/

/-- A set of ASCII characters, given by its intervals. -/
def asciiSet (spans : List (Char × Char)) : CharSet :=
  CharSet.ofIntervals (spans.map fun (a, b) => ⟨a.toNat, b.toNat⟩)

/-- The named classes of ASCII characters. -/
def posixSet? (name : String) : Option CharSet :=
  match name with
  | "alnum" => some (asciiSet [('0', '9'), ('A', 'Z'), ('a', 'z')])
  | "alpha" => some (asciiSet [('A', 'Z'), ('a', 'z')])
  | "ascii" => some (asciiSet [('\x00', '\x7F')])
  | "blank" => some (asciiSet [('\t', '\t'), (' ', ' ')])
  | "cntrl" => some (asciiSet [('\x00', '\x1F'), ('\x7F', '\x7F')])
  | "digit" => some (asciiSet [('0', '9')])
  | "graph" => some (asciiSet [('!', '~')])
  | "lower" => some (asciiSet [('a', 'z')])
  | "print" => some (asciiSet [(' ', '~')])
  | "punct" => some (asciiSet [('!', '/'), (':', '@'), ('[', '\x60'), ('\x7B', '~')])
  | "space" => some (asciiSet [('\t', '\r'), (' ', ' ')])
  | "upper" => some (asciiSet [('A', 'Z')])
  | "word" => some (asciiSet [('0', '9'), ('A', 'Z'), ('_', '_'), ('a', 'z')])
  | "xdigit" => some (asciiSet [('0', '9'), ('A', 'F'), ('a', 'f')])
  | _ => none

/-- A named class such as `:^alpha:]`, after its opening bracket. Anything else is no named
    class, and the bracket opens a nested one. -/
def readPosix? (cs : List Char) : Option (ClassTree × List Char) :=
  match cs with
  | ':' :: rest =>
    let (negated, body) :=
      match rest with
      | '^' :: more => (true, more)
      | _ => (false, rest)
    match body.dropWhile (· ≠ ':') with
    | ':' :: ']' :: after =>
      (posixSet? (String.ofList (body.takeWhile (· ≠ ':')))).map fun s => (.posix negated s, after)
    | _ => none
  | _ => none

/-- A class that is being read inside another one, or the left side of an operator. The items
    read so far stand in reverse. -/
inductive OpenClass where
  | bracket (items : List ClassTree) (negated : Bool)
  | operand (op : ClassOp) (lhs : ClassTree)

/-- Literal hyphens at the start of a class, and what follows the last of them. -/
def readHyphens (x : Bool) : Nat → (items : List ClassTree) → List Char →
    Option (List ClassTree × List Char)
  | 0, _, _ => none
  | fuel + 1, items, cs =>
    match cs with
    | [] => none
    | '-' :: rest => readHyphens x fuel (.literal ⟨'-', false⟩ :: items) (skip x rest)
    | cs => some (items, cs)

/-- What may stand right after an opening bracket: `^`, hyphens, and a closing bracket that is
    a literal if nothing came before it. -/
def openClass (x : Bool) (cs : List Char) : Option (Bool × List ClassTree × List Char) :=
  let cs := skip x cs
  let (negated, cs) :=
    match cs with
    | '^' :: rest => (true, skip x rest)
    | _ => (false, cs)
  match readHyphens x (cs.length + 1) [] cs with
  | some ([], ']' :: rest) =>
    match skip x rest with
    | [] => none
    | after => some (negated, [.literal ⟨']', false⟩], after)
  | some (items, after) => some (negated, items, after)
  | none => none

/-- The first character after a hyphen, looking past blanks and one `#`. -/
def peekPast (x : Bool) (cs : List Char) : Option Char :=
  if x then
    match cs.dropWhile isBlank with
    | '#' :: rest => (rest.dropWhile isBlank).head? <|> cs.head?
    | c :: _ => some c
    | [] => cs.head?
  else cs.head?

/-- One primitive of a class. -/
def readClassPrimitive (x : Bool) : List Char → Option (Primitive × List Char)
  | [] => none
  | '\\' :: rest => readEscape x rest
  | c :: rest => some (.verbatim c, rest)

/-- One item of a class: a primitive, or a range of two literals. A hyphen before `]` or before
    another hyphen makes no range. -/
def readClassItem (x : Bool) (cs : List Char) : Option (ClassTree × List Char) := do
  let (first, after) ← readClassPrimitive x cs
  match skip x after with
  | [] => none
  | '-' :: rest =>
    let next := peekPast x rest
    if next = some ']' || next = some '-' then
      return (← first.item?, '-' :: rest)
    let (last, after) ← readClassPrimitive x (skip x rest)
    match first, last with
    | .literal a, .literal b => if a.char ≤ b.char then some (.range a b, after) else none
    | _, _ => none
  | after => return (← first.item?, after)

/-- Completes the operator on top of the stack, if one waits for its right side. -/
def closeOperand (stack : List OpenClass) (rhs : ClassTree) : ClassTree × List OpenClass :=
  match stack with
  | .operand op lhs :: rest => (.binary op lhs rhs, rest)
  | _ => (rhs, stack)

/-- The next thing that reading a class meets. -/
inductive ClassStep where
  | done (negated : Bool) (inner : ClassTree) (rest : List Char)
  | next (stack : List OpenClass) (items : List ClassTree) (rest : List Char)

/-- An operator ends the items read so far: they are its left side. -/
def ClassStep.operator (op : ClassOp) (stack : List OpenClass) (items : List ClassTree)
    (rest : List Char) : ClassStep :=
  let (lhs, stack) := closeOperand stack (ClassTree.ofItems items.reverse)
  .next (.operand op lhs :: stack) [] rest

/-- One step of reading a class, at a character that is not ignored. -/
def classStep (x : Bool) (stack : List OpenClass) (items : List ClassTree) :
    List Char → Option ClassStep
  | [] => none
  | '[' :: rest =>
    match if stack.isEmpty then none else readPosix? rest with
    | some (item, after) => some (.next stack (item :: items) after)
    | none => (openClass x rest).map fun (negated, inner, after) =>
        .next (.bracket items negated :: stack) inner after
  | ']' :: rest =>
    match closeOperand stack (ClassTree.ofItems items.reverse) with
    | (inner, [.bracket _ negated]) => some (.done negated inner rest)
    | (inner, .bracket outer negated :: stack) =>
      some (.next stack (.bracketed negated inner :: outer) rest)
    | _ => none
  | '&' :: '&' :: rest => some (.operator .inter stack items rest)
  | '-' :: '-' :: rest => some (.operator .diff stack items rest)
  | '~' :: '~' :: rest => some (.operator .symmDiff stack items rest)
  | cs => (readClassItem x cs).map fun (item, after) => .next stack (item :: items) after

/-- Reads a class to its closing bracket. -/
def readClass (x : Bool) (stack : List OpenClass) (items : List ClassTree) (cs : List Char) :
    Option (Bool × ClassTree × List Char) :=
  match classStep x stack items (skip x cs) with
  | none => none
  | some (.done negated inner rest) => some (negated, inner, rest)
  | some (.next stack items rest) =>
    if _h : rest.length < cs.length then readClass x stack items rest else none
termination_by cs.length

/-! ## 5. Groups -/

/-- A character that a group's name may hold; it starts with `_` or a letter. -/
def isNameChar (first : Bool) (c : Char) : Bool :=
  if first then c = '_' || alphabeticLatest.contains c
  else c = '_' || c = '.' || c = '[' || c = ']' || alphanumericLatest.contains c

/-- A group's name up to its closing angle, and the rest. -/
def readName (cs : List Char) : Option (List Char × List Char) :=
  let name := cs.takeWhile (· ≠ '>')
  match name, cs.dropWhile (· ≠ '>') with
  | first :: more, _ :: rest =>
    if isNameChar true first && more.all (isNameChar false) then some (name, rest) else none
  | _, _ => none

/-- Switches up to the colon or parenthesis that ends them, with that character. No switch may
    be named twice; one hyphen may turn off those after it, and must not be the last. -/
def readSettings : (items : List Setting) → (negated dangling : Bool) → List Char →
    Option (List Setting × Char × List Char)
  | _, _, _, [] => none
  | items, negated, dangling, c :: rest =>
    if c = ':' || c = ')' then
      if dangling then none else some (items.reverse, c, rest)
    else if c = '-' then
      if negated then none else readSettings items true true rest
    else
      match Switch.ofLetter? c with
      | none => none
      | some s =>
        if items.any (·.switch = s) then none
        else readSettings (⟨s, !negated⟩ :: items) negated false rest

/-- The last word on whether blanks are ignored, if the settings speak of it. -/
def ignoresBlanks? (items : List Setting) : Option Bool :=
  (items.find? (·.switch = .ignoreBlanks)).map (·.on)

/-- What an opening parenthesis begins. -/
inductive Opening where
  | settings (items : List Setting)
  | group (captures : Bool) (items : List Setting) (name : Option (List Char))

/-- The start of a group, after its parenthesis and what is ignored there. -/
def readOpening (cs : List Char) : Option (Opening × List Char) :=
  match cs with
  | '?' :: '=' :: _ => none
  | '?' :: '!' :: _ => none
  | '?' :: '<' :: '=' :: _ => none
  | '?' :: '<' :: '!' :: _ => none
  | '?' :: 'P' :: '<' :: rest =>
    (readName rest).map fun (name, after) => (.group true [] (some name), after)
  | '?' :: '<' :: rest =>
    (readName rest).map fun (name, after) => (.group true [] (some name), after)
  | '?' :: rest =>
    match readSettings [] false false rest with
    | none => none
    | some (items, stop, after) =>
      if stop = ')' then if items.isEmpty then none else some (.settings items, after)
      else some (.group false items none, after)
  | cs => some (.group true [] none, cs)

/-! ## 6. Repetitions -/

/-- A question mark after a repetition makes it lazy. -/
def readGreed (cs : List Char) : Bool × List Char :=
  match cs with
  | '?' :: rest => (false, rest)
  | _ => (true, cs)

/-- The closing brace of a count, and the greed after it. -/
def closeCount (x : Bool) (min : Nat) (max : Option Nat) (cs : List Char) :
    Option (Nat × Option Nat × Bool × List Char) :=
  match cs with
  | '}' :: rest =>
    let (greedy, after) := readGreed (skip x rest)
    some (min, max, greedy, after)
  | _ => none

/-- The rest of a count after its opening brace: `n`, `n,` or `n,m` with `n ≤ m`. -/
def readRange (x : Bool) (cs : List Char) : Option (Nat × Option Nat × Bool × List Char) :=
  match readCount x (skip x cs) with
  | (none, _) => none
  | (some min, ',' :: rest) =>
    match skip x rest with
    | '}' :: after => closeCount x min none ('}' :: after)
    | cs =>
      match readCount x cs with
      | (some max, after) => if min ≤ max then closeCount x min (some max) after else none
      | (none, _) => none
  | (some min, cs) => closeCount x min (some min) cs

/-! ## 7. The whole expression -/

/-- A group that is not closed yet. `parts` and `branches` belong to the expression around it,
    in reverse, and `x` is what the parenthesis found and its closing restores. -/
structure OpenGroup where
  parts : List Node
  branches : List Node
  captures : Bool
  items : List Setting
  x : Bool

/-- Where the reader is: the parts of the present branch and the branches before it, both in
    reverse, the groups around them, the names given, and whether blanks are ignored. -/
structure Progress where
  parts : List Node
  branches : List Node
  groups : List OpenGroup
  names : List (List Char)
  x : Bool

/-- Nothing is read yet. -/
def Progress.start : Progress := ⟨[], [], [], [], false⟩

/-- The tree of the innermost group, or of the whole expression. -/
def Progress.node (p : Progress) : Node :=
  Node.ofBranches (Node.ofParts p.parts.reverse :: p.branches).reverse

/-- One more part in the present branch. -/
def Progress.push (p : Progress) (node : Node) : Progress := { p with parts := node :: p.parts }

/-- The last part of the present branch, repeated. -/
def Progress.repeated (p : Progress) (min : Nat) (max : Option Nat) (greedy : Bool) :
    Option Progress :=
  match p.parts with
  | last :: before =>
    if last.isRepeatable then some { p with parts := .rep min max greedy last :: before } else none
  | [] => none

/-- Opens a group, or flips switches in the present one. -/
def Progress.opened (p : Progress) : Opening → Option Progress
  | .settings items => some { p.push (.settings items) with x := (ignoresBlanks? items).getD p.x }
  | .group captures items name =>
    let inner : Progress :=
      { parts := []
        branches := []
        groups := ⟨p.parts, p.branches, captures, items, p.x⟩ :: p.groups
        names := p.names
        x := (ignoresBlanks? items).getD p.x }
    match name with
    | none => some inner
    | some name =>
      if p.names.contains name then none else some { inner with names := name :: p.names }

/-- Closes the innermost group. -/
def Progress.closed (p : Progress) : Option Progress :=
  match p.groups with
  | [] => none
  | g :: groups =>
    some
      { parts := .group g.captures g.items p.node :: g.parts
        branches := g.branches
        groups := groups
        names := p.names
        x := g.x }

/-- One step of the reader, at a character that is not ignored. -/
def Progress.step (p : Progress) : List Char → Option (Progress × List Char)
  | [] => none
  | '(' :: rest => do
    let (opening, after) ← readOpening (skip p.x rest)
    pure (← p.opened opening, after)
  | ')' :: rest => p.closed.map fun p => (p, rest)
  | '|' :: rest =>
    some ({ p with parts := [], branches := Node.ofParts p.parts.reverse :: p.branches }, rest)
  | '[' :: rest => do
    let (negated, inner, after) ← readClass p.x [] [] ('[' :: rest)
    pure (p.push (.bracketed negated inner), after)
  | '?' :: rest =>
    let (greedy, after) := readGreed rest
    (p.repeated 0 (some 1) greedy).map fun p => (p, after)
  | '*' :: rest =>
    let (greedy, after) := readGreed rest
    (p.repeated 0 none greedy).map fun p => (p, after)
  | '+' :: rest =>
    let (greedy, after) := readGreed rest
    (p.repeated 1 none greedy).map fun p => (p, after)
  | '{' :: rest => do
    let (min, max, greedy, after) ← readRange p.x rest
    pure (← p.repeated min max greedy, after)
  | '\\' :: rest => do
    let (primitive, after) ← readEscape p.x rest
    pure (p.push primitive.node, after)
  | '.' :: rest => some (p.push .dot, rest)
  | '^' :: rest => some (p.push (.anchor .lineStart), rest)
  | '$' :: rest => some (p.push (.anchor .lineEnd), rest)
  | c :: rest => some (p.push (.literal ⟨c, false⟩), rest)

/-- Reads from where the reader is to the end of the text; a group that is still open is
    refused. -/
def Progress.finish (p : Progress) (cs : List Char) : Option Node :=
  match skip p.x cs with
  | [] => if p.groups.isEmpty then some p.node else none
  | c :: rest =>
    match p.step (c :: rest) with
    | none => none
    | some (p, after) =>
      if _h : after.length < cs.length then p.finish after else none
termination_by cs.length

/-- Trees nest at most this deep. -/
def nestLimit : Nat := 250

/-- **The tree that a regular expression spells**, or `none` if it is refused. -/
def Node.read (pattern : List Char) : Option Node :=
  match Progress.start.finish pattern with
  | none => none
  | some node => if node.depth ≤ nestLimit then some node else none

end PageWatch.Regex
