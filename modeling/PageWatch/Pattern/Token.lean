import PageWatch.Pattern.Fault
import PageWatch.Pattern.Quotation
import PageWatch.Text.Blank
import PageWatch.Text.Utf8

/-!
# Tokens

A search expression is cut into parentheses, the keywords `AND` and `OR`, and leaves. Main
definition: `tokenize`.

* A keyword stands between boundaries: blanks, parentheses or an end of the text. What is
  spelled otherwise (`and`, `ANDROID`) is leaf text.
* A leaf runs to the next parenthesis or keyword. It consists of **atoms** (`atom`): an escaped
  pair, a quotation, or one other character. Inside an atom nothing ends the leaf.
* A quote opens a quotation at the start of a leaf and after a blank or a colon; elsewhere it is
  an apostrophe.

The blanks around a leaf are not part of it.
-/

namespace PageWatch.Pattern

open PageWatch.Text

/-! ## 1. Tokens -/

/-- A token. A leaf holds its text as it is spelled. -/
inductive Token where
  | opening
  | closing
  | operator (op : Operator)
  | leaf (raw : String)
  deriving Repr, DecidableEq, Inhabited

/-- The text of a leaf token. -/
def Token.raw? : Token → Option String
  | .leaf raw => some raw
  | .opening | .closing | .operator _ => none

/-- A parenthesis. -/
def isParen (c : Char) : Bool := c = '(' || c = ')'

/-- A character that bounds a keyword. -/
def isBound (c : Char) : Bool := isBlank c || isParen c

/-- The text ends here or goes on with a boundary. -/
def startsBounded : List Char → Bool
  | [] => true
  | c :: _ => isBound c

/-- The keyword at the start of a text, and what follows it. -/
def keyword? : List Char → Option (Operator × List Char)
  | 'A' :: 'N' :: 'D' :: rest => if startsBounded rest then some (.and, rest) else none
  | 'O' :: 'R' :: rest => if startsBounded rest then some (.or, rest) else none
  | _ => none

/-! ## 2. Leaves -/

/-- The first atom of a text that begins with `c`, and what follows it. `opens` tells whether a
    quote opens a quotation here. The error is the text from a quote on that has no end. -/
def atom (opens : Bool) (c : Char) (rest : List Char) :
    Except (List Char) (List Char × List Char) :=
  if c = '\\' then
    match rest with
    | [] => .ok (['\\'], [])
    | d :: after => .ok (['\\', d], after)
  else if opens && isQuote c then
    match closeQuote c rest with
    | none => .error (c :: rest)
    | some (body, after) => .ok (c :: body, after)
  else .ok ([c], rest)

theorem closeQuote_append {q : Char} {cs body after : List Char}
    (h : closeQuote q cs = some (body, after)) : cs = body ++ after := by
  fun_induction closeQuote q cs generalizing body after with
  | case1 => simp at h
  | case2 => simp at h
  | case3 c rest ih =>
    simp only [Option.map_eq_some_iff, Prod.exists, Prod.mk.injEq] at h
    obtain ⟨b, a, hb, rfl, rfl⟩ := h
    simp [ih hb]
  | case4 rest =>
    simp only [Option.some.injEq, Prod.mk.injEq] at h
    obtain ⟨rfl, rfl⟩ := h
    rfl
  | case5 c rest _ _ _ ih =>
    simp only [Option.map_eq_some_iff, Prod.exists, Prod.mk.injEq] at h
    obtain ⟨b, a, hb, rfl, rfl⟩ := h
    simp [ih hb]

/-- **An atom is the beginning of the text**, and nothing is lost behind it. -/
theorem atom_append {opens : Bool} {c : Char} {rest a after : List Char}
    (h : atom opens c rest = .ok (a, after)) : c :: rest = a ++ after := by
  unfold atom at h
  split at h
  · next hc =>
    split at h
    all_goals
      simp only [Except.ok.injEq, Prod.mk.injEq] at h
      obtain ⟨rfl, rfl⟩ := h
      simp [hc]
  · split at h
    · split at h
      · simp at h
      · next body after' hb =>
        simp only [Except.ok.injEq, Prod.mk.injEq] at h
        obtain ⟨rfl, rfl⟩ := h
        simp [closeQuote_append hb]
    · simp only [Except.ok.injEq, Prod.mk.injEq] at h
      obtain ⟨rfl, rfl⟩ := h
      rfl

/-- An atom has at least one character. -/
theorem atom_ne_nil {opens : Bool} {c : Char} {rest a after : List Char}
    (h : atom opens c rest = .ok (a, after)) : a ≠ [] := by
  intro ha
  subst ha
  unfold atom at h
  split at h
  · split at h <;> simp at h
  · split at h
    · split at h <;> simp at h
    · simp at h

theorem length_lt_of_atom {opens : Bool} {c : Char} {rest a after : List Char}
    (h : atom opens c rest = .ok (a, after)) : after.length < rest.length + 1 := by
  have h₁ := congrArg List.length (atom_append h)
  have h₂ := List.length_pos_iff.2 (atom_ne_nil h)
  simp at h₁
  omega

/-- A quote that follows this character opens a quotation. -/
def opensQuoteAfter (c : Char) : Bool := isBlank c || c = ':'

/-- The atoms of a leaf behind its first one, joined, and the text that the leaf stops at: a
    parenthesis, a keyword or nothing. `before` is the character in front of the text. -/
def leafTail (before : Char) : List Char → Except (List Char) (List Char × List Char)
  | [] => .ok ([], [])
  | c :: rest =>
    if isParen c || (isBound before && (keyword? (c :: rest)).isSome) then .ok ([], c :: rest)
    else
      match _h : atom (opensQuoteAfter before) c rest with
      | .error e => .error e
      | .ok (a, after) =>
        (leafTail (a.getLast?.getD c) after).map fun (more, stop) => (a ++ more, stop)
termination_by cs => cs.length
decreasing_by simpa using length_lt_of_atom _h

/-- The leaf that begins with `c`, and the text it stops at. -/
def leafText (c : Char) (rest : List Char) : Except (List Char) (List Char × List Char) :=
  match atom true c rest with
  | .error e => .error e
  | .ok (a, after) =>
    (leafTail (a.getLast?.getD c) after).map fun (more, stop) => (a ++ more, stop)

/-- What a leaf stops at is the end of the text. -/
theorem leafTail_append {before : Char} {cs leaf stop : List Char}
    (h : leafTail before cs = .ok (leaf, stop)) : cs = leaf ++ stop := by
  fun_induction leafTail before cs generalizing leaf stop with
  | case1 => simp_all
  | case2 => simp_all
  | case3 => simp at h
  | case4 before c rest _ a after ha ih =>
    cases ht : leafTail (a.getLast?.getD c) after with
    | error e => simp [ht, Except.map] at h
    | ok r =>
      simp only [ht, Except.map, Except.ok.injEq, Prod.mk.injEq] at h
      obtain ⟨rfl, rfl⟩ := h
      rw [atom_append ha, ih ht, List.append_assoc]

theorem leafText_append {c : Char} {rest leaf stop : List Char}
    (h : leafText c rest = .ok (leaf, stop)) : c :: rest = leaf ++ stop := by
  unfold leafText at h
  split at h
  · simp at h
  · next a after ha =>
    cases ht : leafTail (a.getLast?.getD c) after with
    | error e => simp [ht, Except.map] at h
    | ok r =>
      simp only [ht, Except.map, Except.ok.injEq, Prod.mk.injEq] at h
      obtain ⟨rfl, rfl⟩ := h
      rw [atom_append ha, leafTail_append ht, List.append_assoc]

/-- A leaf has at least one character. -/
theorem leafText_ne_nil {c : Char} {rest leaf stop : List Char}
    (h : leafText c rest = .ok (leaf, stop)) : leaf ≠ [] := by
  unfold leafText at h
  split at h
  · simp at h
  · next a after ha =>
    cases ht : leafTail (a.getLast?.getD c) after with
    | error e => simp [ht, Except.map] at h
    | ok r =>
      simp only [ht, Except.map, Except.ok.injEq, Prod.mk.injEq] at h
      obtain ⟨rfl, rfl⟩ := h
      simp [atom_ne_nil ha]

theorem length_lt_of_leafText {c : Char} {rest leaf stop : List Char}
    (h : leafText c rest = .ok (leaf, stop)) : stop.length < rest.length + 1 := by
  have h₁ := congrArg List.length (leafText_append h)
  have h₂ := List.length_pos_iff.2 (leafText_ne_nil h)
  simp at h₁
  omega

/-! ## 3. The whole text -/

/-- What follows a keyword is shorter than the text with it. -/
theorem length_lt_of_keyword? {cs rest : List Char} {op : Operator}
    (h : keyword? cs = some (op, rest)) : rest.length < cs.length := by
  unfold keyword? at h
  split at h
  · split at h
    · simp only [Option.some.injEq, Prod.mk.injEq] at h
      obtain ⟨-, rfl⟩ := h
      simp only [List.length_cons]
      omega
    · simp at h
  · split at h
    · simp only [Option.some.injEq, Prod.mk.injEq] at h
      obtain ⟨-, rfl⟩ := h
      simp only [List.length_cons]
      omega
    · simp at h
  · simp at h

/-- The token of a leaf, unless it is blank. -/
def leafToken (leaf : List Char) : List Token :=
  if (trim leaf).isEmpty then [] else [.leaf (String.ofList (trim leaf))]

/-- The tokens of a text that begins between two tokens. The error is the text from a quote on
    that has no end. -/
def scan : List Char → Except (List Char) (List Token)
  | [] => .ok []
  | c :: rest =>
    if c = '(' then (scan rest).map (.opening :: ·)
    else if c = ')' then (scan rest).map (.closing :: ·)
    else if isBlank c then scan rest
    else
      match _h : keyword? (c :: rest) with
      | some (op, after) => (scan after).map (.operator op :: ·)
      | none =>
        match _h : leafText c rest with
        | .error e => .error e
        | .ok (leaf, stop) => (scan stop).map (leafToken leaf ++ ·)
termination_by cs => cs.length
decreasing_by
  · simp
  · simp
  · simp
  · exact length_lt_of_keyword? _h
  · simpa using length_lt_of_leafText _h

/-- **The tokens of a search expression**, or the quotation that has no end. -/
def tokenize (pattern : String) : Except UnterminatedQuote (List Token) :=
  match scan pattern.toList with
  | .ok tokens => .ok tokens
  | .error unclosed =>
    .error
      { pattern := pattern
        quote := unclosed.headD '"'
        start := byteLength pattern.toList - byteLength unclosed }

end PageWatch.Pattern
