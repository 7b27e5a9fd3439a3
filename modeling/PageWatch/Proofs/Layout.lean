import Mathlib.Data.List.Chain
import PageWatch.Proofs.Grammar
import PageWatch.Proofs.Scan

/-!
# Tokens as they are laid out

What the text of a search expression consists of. A `Layout` is a list of tokens with the blanks
around them; its text is their spellings with these blanks between them. The scanner loses nothing
but such blanks: **every text that has tokens is the text of a layout of them**.

* `Layout.Has`: a token stands in a layout with this in front of it and that behind it;
* `leafTail_stops` and `leafTail_goes_on`: where a leaf stops, and that it does so at the first
  place where it can;
* `Scanned`: **a run of the scanner as a relation** between a text and its layout, with one
  constructor for every kind of step. The properties below are inductions on it;
* `Scanned.bounded`: a keyword stands between boundaries, and so does what looks like one;
* `Scanned.has_of_literal`: in a text without quotes and backslashes no parenthesis and no keyword
  is part of a leaf.

Main statement: `tokenize_layout`.
-/

namespace PageWatch.Text

/-- Something, with no blank at either end. -/
structure Trimmed (cs : List Char) : Prop where
  ne_nil : cs ≠ []
  head : ∀ c ∈ cs.head?, isBlank c = false
  last : ∀ c ∈ cs.getLast?, isBlank c = false

/-- Trimming takes off blanks at the end, and only those. -/
theorem exists_eq_trimRight_append (cs : List Char) :
    ∃ v, (∀ c ∈ v, isBlank c = true) ∧ cs = trimRight cs ++ v := by
  refine ⟨(cs.reverse.takeWhile isBlank).reverse, fun c hc => ?_, ?_⟩
  · exact List.mem_takeWhile_imp (List.mem_reverse.mp hc)
  · rw [trimRight, ← List.reverse_append, List.takeWhile_append_dropWhile, List.reverse_reverse]

theorem trimRight_last {cs : List Char} : ∀ c ∈ (trimRight cs).getLast?, isBlank c = false := by
  intro c hc
  rw [trimRight, List.getLast?_reverse] at hc
  have hhead := List.head?_dropWhile_not isBlank cs.reverse
  rw [Option.mem_def.mp hc] at hhead
  exact hhead

/-- What begins with no blank is trimmed at its end only, and something is left. -/
theorem exists_eq_trim_append {c : Char} (hc : isBlank c = false) (cs : List Char) :
    ∃ v, (∀ d ∈ v, isBlank d = true) ∧ c :: cs = trim (c :: cs) ++ v ∧
      Trimmed (trim (c :: cs)) := by
  have hleft : trim (c :: cs) = trimRight (c :: cs) := by
    rw [trim, trimLeft, List.dropWhile_cons_of_neg (by simp [hc])]
  obtain ⟨v, hv, hcs⟩ := exists_eq_trimRight_append (c :: cs)
  rw [hleft]
  refine ⟨v, hv, hcs, ?_, ?_, trimRight_last⟩
  · intro hnil
    rw [hnil, List.nil_append] at hcs
    have hblank := hv c (by rw [← hcs]; exact List.mem_cons_self)
    rw [hc] at hblank
    cases hblank
  · intro d hd
    cases hr : trimRight (c :: cs) with
    | nil =>
      rw [hr] at hd
      cases hd
    | cons e r =>
      rw [hr, List.cons_append] at hcs
      rw [hr] at hd
      obtain ⟨rfl, -⟩ := List.cons.inj hcs
      cases hd
      exact hc

end PageWatch.Text

namespace PageWatch.Pattern

open PageWatch.Text

/-! ## 1. Layouts -/

/-- How a token is spelled. -/
def Token.spelling : Token → List Char
  | .opening => ['(']
  | .closing => [')']
  | .operator op => op.word.toList
  | .leaf raw => raw.toList

/-- Tokens, each with the blanks behind it, as text. -/
def spelled (pieces : List (Token × List Char)) : List Char :=
  pieces.flatMap fun p => p.1.spelling ++ p.2

theorem spelled_cons (p : Token × List Char) (ps : List (Token × List Char)) :
    spelled (p :: ps) = p.1.spelling ++ (p.2 ++ spelled ps) := by
  rw [spelled, List.flatMap_cons, List.append_assoc]
  rfl

/-- **Tokens with the blanks around them**: those in front of the first token, and for every token
    those behind it. -/
structure Layout where
  lead : List Char
  pieces : List (Token × List Char)
  lead_blank : ∀ c ∈ lead, isBlank c = true
  gaps_blank : ∀ p ∈ pieces, ∀ c ∈ p.2, isBlank c = true

namespace Layout

def text (l : Layout) : List Char := l.lead ++ spelled l.pieces

def tokens (l : Layout) : List Token := l.pieces.map Prod.fst

/-- The token stands in the layout, with `before` in front of it and `after` behind it. -/
def Has (l : Layout) (before : List Char) (t : Token) (after : List Char) : Prop :=
  ∃ ps gap qs, l.pieces = ps ++ (t, gap) :: qs ∧ before = l.lead ++ spelled ps ∧
    after = gap ++ spelled qs

/-- No tokens and no blanks. -/
def empty : Layout := ⟨[], [], by simp, by simp⟩

/-- More blanks in front. -/
def indent (l : Layout) (v : List Char) (hv : ∀ c ∈ v, isBlank c = true) : Layout where
  lead := v ++ l.lead
  pieces := l.pieces
  lead_blank c hc := (List.mem_append.mp hc).elim (hv c) (l.lead_blank c)
  gaps_blank := l.gaps_blank

/-- One more token in front. -/
def cons (t : Token) (l : Layout) : Layout where
  lead := []
  pieces := (t, l.lead) :: l.pieces
  lead_blank := by simp
  gaps_blank := List.forall_mem_cons.mpr ⟨l.lead_blank, l.gaps_blank⟩

variable {l : Layout} {t u : Token} {v before after : List Char}

@[simp] theorem text_indent (hv : ∀ c ∈ v, isBlank c = true) :
    (l.indent v hv).text = v ++ l.text := List.append_assoc ..

@[simp] theorem text_cons : (l.cons t).text = t.spelling ++ l.text := List.append_assoc ..

@[simp] theorem tokens_indent (hv : ∀ c ∈ v, isBlank c = true) :
    (l.indent v hv).tokens = l.tokens := rfl

@[simp] theorem tokens_cons : (l.cons t).tokens = t :: l.tokens := rfl

theorem not_has_empty : ¬ empty.Has before t after := by
  rintro ⟨ps, gap, qs, hps, -⟩
  cases ps <;> cases hps

theorem has_indent (hv : ∀ c ∈ v, isBlank c = true) :
    (l.indent v hv).Has before t after ↔ ∃ b, before = v ++ b ∧ l.Has b t after := by
  constructor
  · rintro ⟨ps, gap, qs, hps, rfl, rfl⟩
    exact ⟨l.lead ++ spelled ps, List.append_assoc .., ps, gap, qs, hps, rfl, rfl⟩
  · rintro ⟨b, rfl, ps, gap, qs, hps, rfl, rfl⟩
    exact ⟨ps, gap, qs, hps, (List.append_assoc ..).symm, rfl⟩

/-- The first token stands in front of all others. -/
theorem has_cons :
    (l.cons t).Has before u after ↔
      (before = [] ∧ u = t ∧ after = l.text) ∨
        ∃ b, before = t.spelling ++ b ∧ l.Has b u after := by
  constructor
  · rintro ⟨ps, gap, qs, hps, rfl, rfl⟩
    cases ps with
    | nil =>
      obtain ⟨hp, rfl⟩ := List.cons.inj hps
      obtain ⟨rfl, rfl⟩ := Prod.mk.inj hp
      exact .inl ⟨rfl, rfl, rfl⟩
    | cons p ps =>
      obtain ⟨rfl, hrest⟩ := List.cons.inj hps
      exact .inr ⟨l.lead ++ spelled ps, List.append_assoc .., ps, gap, qs, hrest, rfl, rfl⟩
  · rintro (⟨rfl, rfl, rfl⟩ | ⟨b, rfl, ps, gap, qs, hps, rfl, rfl⟩)
    · exact ⟨[], l.lead, l.pieces, rfl, rfl, rfl⟩
    · refine ⟨(t, l.lead) :: ps, gap, qs, ?_, (List.append_assoc ..).symm, rfl⟩
      show (t, l.lead) :: l.pieces = _
      rw [hps, List.cons_append]

/-- What stands in a layout stands in its text. -/
theorem Has.text_eq (h : l.Has before t after) : l.text = before ++ (t.spelling ++ after) := by
  obtain ⟨ps, gap, qs, hps, rfl, rfl⟩ := h
  rw [text, hps]
  simp [spelled]

/-- Two tokens of a layout are one and the same, or one stands behind the other. -/
theorem Has.apart {before' after' : List Char} (h : l.Has before t after)
    (h' : l.Has before' u after') :
    (before = before' ∧ t = u ∧ after = after') ∨
      before.length + t.spelling.length ≤ before'.length ∨
      before'.length + u.spelling.length ≤ before.length := by
  obtain ⟨ps, gap, qs, hps, rfl, rfl⟩ := h
  obtain ⟨ps', gap', qs', hps', rfl, rfl⟩ := h'
  rw [hps] at hps'
  rcases List.append_eq_append_iff.mp hps' with ⟨ms, rfl, hms⟩ | ⟨ms, rfl, hms⟩
  · cases ms with
    | nil =>
      obtain ⟨hp, rfl⟩ := List.cons.inj hms
      obtain ⟨rfl, rfl⟩ := Prod.mk.inj hp
      exact .inl ⟨by rw [List.append_nil], rfl, rfl⟩
    | cons m ms =>
      obtain ⟨rfl, -⟩ := List.cons.inj hms
      refine .inr (.inl ?_)
      simp only [spelled, List.flatMap_append, List.flatMap_cons, List.length_append]
      omega
  · cases ms with
    | nil =>
      obtain ⟨hp, rfl⟩ := List.cons.inj hms
      obtain ⟨rfl, rfl⟩ := Prod.mk.inj hp
      exact .inl ⟨by rw [List.append_nil], rfl, rfl⟩
    | cons m ms =>
      obtain ⟨rfl, -⟩ := List.cons.inj hms
      refine .inr (.inr ?_)
      simp only [spelled, List.flatMap_append, List.flatMap_cons, List.length_append]
      omega

end Layout

/-! ## 2. Boundaries -/

/-- The text begins here or a boundary stands in front. -/
def endsBounded (cs : List Char) : Bool := cs.getLast?.all isBound

/-- What a token needs around it: boundaries, if it is a keyword. -/
def Token.Bounded (before after : List Char) : Token → Prop
  | .operator _ => endsBounded before = true ∧ startsBounded after = true
  | .opening | .closing | .leaf _ => True

section Boundaries

variable {t u : Token} {op : Operator} {before after cs ds : List Char}

/-- In front of a text one may think of a blank. -/
theorem isBound_getLast?_getD (cs : List Char) :
    isBound (cs.getLast?.getD ' ') = endsBounded cs := by
  unfold endsBounded
  cases cs.getLast? <;> rfl

theorem endsBounded_append (h : ds ≠ []) : endsBounded (cs ++ ds) = endsBounded ds := by
  rw [endsBounded, endsBounded, List.getLast?_append, List.getLast?_eq_some_getLast h]
  rfl

theorem endsBounded_of_append (h : endsBounded (cs ++ ds) = true) : endsBounded ds = true := by
  by_cases hds : ds = []
  · rw [hds]
    rfl
  · rwa [← endsBounded_append hds]

/-- No part of a keyword ends with a boundary. -/
theorem endsBounded_of_subset_word (hne : cs ≠ []) (h : ∀ c ∈ cs, c ∈ op.word.toList) :
    endsBounded cs = false := by
  rw [endsBounded, List.getLast?_eq_some_getLast hne]
  exact isBound_of_mem_word (h _ (List.getLast_mem hne))

theorem spelling_ne_nil (ht : t.raw? = none) : t.spelling ≠ [] := by
  cases t with
  | opening => exact List.cons_ne_nil _ _
  | closing => exact List.cons_ne_nil _ _
  | operator op => cases op <;> exact List.cons_ne_nil _ _
  | leaf raw => cases ht

/-- A keyword begins with no boundary. -/
theorem startsBounded_word (op : Operator) (rest : List Char) :
    startsBounded (op.word.toList ++ rest) = false := by
  cases op <;> rfl

/-- More text in front is fine, if it ends with a boundary where it matters. -/
theorem Token.Bounded.append (h : t.Bounded before after)
    (hcs : before = [] → ∀ op, t = .operator op → endsBounded cs = true) :
    t.Bounded (cs ++ before) after := by
  match t with
  | .operator op =>
    obtain ⟨hbefore, hafter⟩ := h
    refine ⟨?_, hafter⟩
    by_cases hnil : before = []
    · rw [hnil, List.append_nil]
      exact hcs hnil op rfl
    · rwa [endsBounded_append hnil]
  | .opening | .closing | .leaf _ => trivial

theorem Token.Bounded.of_append (h : t.Bounded (cs ++ before) after) : t.Bounded before after := by
  match t with
  | .operator op => exact ⟨endsBounded_of_append h.1, h.2⟩
  | .opening | .closing | .leaf _ => trivial

/-- Where a parenthesis or a keyword stands, a leaf stops. -/
theorem stopsLeaf_spelling (ht : t.raw? = none) (h : t.Bounded before after) :
    stopsLeaf (endsBounded before) (t.spelling ++ after) = true := by
  match t with
  | .opening => rfl
  | .closing => rfl
  | .operator op =>
    have hk : keyword? (op.word.toList ++ after) = some (op, after) :=
      keyword?_eq_some_iff.mpr ⟨rfl, h.2⟩
    rw [h.1]
    exact stopsLeaf_of_keyword hk

/-- Blanks belong to the leaf in front of them. -/
theorem stopsLeaf_of_isBlank {bounded : Bool} {b : Char} (hb : isBlank b = true) :
    stopsLeaf bounded (b :: cs) = false := by
  simp [stopsLeaf, not_isParen_of_isBlank hb, keyword?_of_bound (isBound_of_isBlank hb)]

theorem stopsLeaf_mono {bounded : Bool} (h : stopsLeaf bounded cs = true) :
    stopsLeaf true cs = true := by
  cases bounded with
  | true => exact h
  | false =>
    cases cs with
    | nil => rfl
    | cons c cs =>
      simp only [stopsLeaf, Bool.false_and, Bool.or_false] at h
      simp [stopsLeaf, h]

theorem toList_word_and : Operator.and.word.toList = ['A', 'N', 'D'] := rfl

theorem toList_word_or : Operator.or.word.toList = ['O', 'R'] := rfl

/-- In front of a keyword a leaf stops only behind a boundary. -/
theorem bounded_of_stopsLeaf_word {bounded : Bool} {rest : List Char}
    (h : stopsLeaf bounded (op.word.toList ++ rest) = true) : bounded = true := by
  cases bounded with
  | true => rfl
  | false =>
    cases op with
    | and => simp [toList_word_and, stopsLeaf, isParen] at h
    | or => simp [toList_word_or, stopsLeaf, isParen] at h

end Boundaries

/-! ## 3. Where leaves stop and where they go on -/

/-- No quote and no backslash: every character stands for itself. -/
def Literal (cs : List Char) : Prop := ∀ c ∈ cs, isQuote c = false ∧ c ≠ '\\'

instance : DecidablePred Literal := fun _ => List.decidableBAll _ _

section Leaves

variable {before c : Char} {rest cs ds leaf stop : List Char}

theorem getLast?_getD_append (a more : List Char) (c : Char) :
    (a ++ more).getLast?.getD c = more.getLast?.getD (a.getLast?.getD c) := by
  rw [List.getLast?_append]
  cases more.getLast? <;> rfl

theorem leafTail_space_of_stops (h : stopsLeaf true cs = true) : leafTail ' ' cs = .ok ([], cs) :=
  leafTail_of_stops h

/-- A leaf begins as if it stood behind a blank. -/
theorem leafText_eq_leafTail (h : stopsLeaf true (c :: rest) = false) :
    leafText c rest = leafTail ' ' (c :: rest) := by
  have hbound : isBound ' ' = true := rfl
  rw [← hbound] at h
  rw [leafTail_of_not_stops h]
  rfl

/-- **A leaf stops where it can.** -/
theorem leafTail_stops (h : leafTail before cs = .ok (leaf, stop)) :
    stopsLeaf (isBound (leaf.getLast?.getD before)) stop = true := by
  fun_induction leafTail before cs generalizing leaf stop with
  | case1 =>
    cases h
    rfl
  | case2 before c rest hstop =>
    cases h
    exact hstop
  | case3 => cases h
  | case4 before c rest _ a after ha ih =>
    obtain ⟨⟨more, stop'⟩, hmore, hr⟩ := map_eq_ok_iff.mp h
    obtain ⟨rfl, rfl⟩ := Prod.mk.inj hr
    have hlast : (a ++ more).getLast?.getD before = more.getLast?.getD (a.getLast?.getD c) := by
      rw [getLast?_getD_append, List.getLast?_eq_some_getLast (atom_ne_nil ha)]
      rfl
    rw [hlast]
    exact ih hmore

/-- **In front of its end a leaf could not stop**, if no quotation and no escape hides a place. -/
theorem leafTail_goes_on (hcs : Literal cs) (h : leafTail before cs = .ok (leaf, stop))
    (hleaf : leaf = ds ++ rest) (hrest : rest ≠ []) :
    stopsLeaf (isBound (ds.getLast?.getD before)) (rest ++ stop) = false := by
  fun_induction leafTail before cs generalizing leaf stop ds with
  | case1 =>
    cases h
    exact absurd (List.append_eq_nil_iff.mp hleaf.symm).2 hrest
  | case2 =>
    cases h
    exact absurd (List.append_eq_nil_iff.mp hleaf.symm).2 hrest
  | case3 => cases h
  | case4 before c cs hgo a after ha ih =>
    obtain ⟨hc, hcs⟩ := List.forall_mem_cons.mp hcs
    have hatom := ha
    rw [atom_single _ hc.2 (by simp [hc.1])] at hatom
    cases hatom
    obtain ⟨⟨more, stop'⟩, hmore, hr⟩ := map_eq_ok_iff.mp h
    obtain ⟨rfl, rfl⟩ := Prod.mk.inj hr
    cases ds with
    | nil =>
      have htext : rest ++ stop' = c :: cs := by
        rw [← List.nil_append rest, ← hleaf, List.append_assoc, ← leafTail_append hmore]
        rfl
      rw [htext]
      exact Bool.eq_false_iff.mpr hgo
    | cons d ds =>
      rw [List.singleton_append, List.cons_append] at hleaf
      obtain ⟨rfl, hmore'⟩ := List.cons.inj hleaf
      have hlast : (c :: ds).getLast?.getD before = ds.getLast?.getD c := by
        rw [List.getLast?_cons]
        rfl
      rw [hlast]
      exact ih hcs hmore hmore'

end Leaves

/-! ## 4. Scans as layouts -/

/-- **How a text is scanned to a layout**, step by step: a blank, a parenthesis or a keyword, or a
    leaf `raw` with the blanks `v` behind it. -/
inductive Scanned : List Char → Layout → Prop
  | atEnd : Scanned [] .empty
  | blank {b : Char} {cs : List Char} {l : Layout} (hb : ∀ c ∈ [b], isBlank c = true)
      (h : Scanned cs l) : Scanned (b :: cs) (l.indent [b] hb)
  | structural {t : Token} {cs : List Char} {l : Layout} (ht : t.raw? = none)
      (hcs : t.Bounded [] cs) (h : Scanned cs l) : Scanned (t.spelling ++ cs) (l.cons t)
  | leaf {raw v stop : List Char} {l : Layout} (hraw : Trimmed raw)
      (hv : ∀ c ∈ v, isBlank c = true) (hleaf : leafTail ' ' (raw ++ v ++ stop) =
        .ok (raw ++ v, stop)) (h : Scanned stop l) :
      Scanned (raw ++ v ++ stop) ((l.indent v hv).cons (.leaf (String.ofList raw)))

/-- **What the scanner reads it lays out.** -/
theorem exists_scanned {cs : List Char} {ts : List Token} (h : scan cs = .ok ts) :
    ∃ l, Scanned cs l ∧ l.tokens = ts := by
  fun_induction scan cs generalizing ts with
  | case1 =>
    cases h
    exact ⟨.empty, .atEnd, rfl⟩
  | case2 cs ih =>
    obtain ⟨us, hus, rfl⟩ := map_eq_ok_iff.mp h
    obtain ⟨l, hl, rfl⟩ := ih hus
    have hscan : Scanned (Token.opening.spelling ++ cs) (l.cons .opening) :=
      .structural rfl trivial hl
    exact ⟨_, hscan, rfl⟩
  | case3 cs _ ih =>
    obtain ⟨us, hus, rfl⟩ := map_eq_ok_iff.mp h
    obtain ⟨l, hl, rfl⟩ := ih hus
    have hscan : Scanned (Token.closing.spelling ++ cs) (l.cons .closing) :=
      .structural rfl trivial hl
    exact ⟨_, hscan, rfl⟩
  | case4 b cs _ _ hb ih =>
    obtain ⟨l, hl, rfl⟩ := ih h
    exact ⟨_, .blank (by simpa using hb) hl, rfl⟩
  | case5 c cs _ _ _ op after hk ih =>
    obtain ⟨us, hus, rfl⟩ := map_eq_ok_iff.mp h
    obtain ⟨l, hl, rfl⟩ := ih hus
    obtain ⟨htext, hafter⟩ := keyword?_eq_some_iff.mp hk
    have hscan : Scanned ((Token.operator op).spelling ++ after) (l.cons (.operator op)) :=
      .structural rfl ⟨rfl, hafter⟩ hl
    rw [htext]
    exact ⟨_, hscan, rfl⟩
  | case6 => cases h
  | case7 c cs h₁ h₂ hb hk leaf stop hl ih =>
    obtain ⟨us, hus, rfl⟩ := map_eq_ok_iff.mp h
    obtain ⟨l, hscan, rfl⟩ := ih hus
    have hgo : stopsLeaf true (c :: cs) = false := by
      simp [stopsLeaf, isParen, h₁, h₂, hk]
    rw [leafText_eq_leafTail hgo] at hl
    have htext := leafTail_append hl
    obtain ⟨d, more, rfl⟩ : ∃ d more, leaf = d :: more := by
      cases leaf with
      | cons d more => exact ⟨d, more, rfl⟩
      | nil =>
        -- A leaf without text would have stopped at its own beginning.
        have hstop : stopsLeaf true stop = true := leafTail_stops hl
        obtain rfl : c :: cs = stop := htext
        rw [hgo] at hstop
        cases hstop
    rw [List.cons_append] at htext
    obtain ⟨rfl, rfl⟩ := List.cons.inj htext
    obtain ⟨v, hv, hmore, htrimmed⟩ :=
      exists_eq_trim_append (Bool.eq_false_iff.mpr hb) more
    have htoken : leafToken (c :: more) = [.leaf (String.ofList (trim (c :: more)))] := by
      rw [leafToken, if_neg (by simpa using htrimmed.ne_nil)]
    rw [← List.cons_append, hmore] at hl
    have hscan' := Scanned.leaf htrimmed hv hl hscan
    rw [← hmore] at hscan'
    rw [htoken]
    exact ⟨_, hscan', rfl⟩

section Properties

variable {cs before after : List Char} {l : Layout} {t : Token} {raw : String}

theorem Scanned.text_eq (h : Scanned cs l) : l.text = cs := by
  induction h with
  | atEnd => rfl
  | blank hb h ih => rw [Layout.text_indent, ih, List.singleton_append]
  | structural ht hcs h ih => rw [Layout.text_cons, ih]
  | leaf hraw hv hleaf h ih =>
    rw [Layout.text_cons, Layout.text_indent, ih, Token.spelling, String.toList_ofList,
      List.append_assoc]

/-- A leaf has text, with no blank at either end. -/
theorem Scanned.trimmed (h : Scanned cs l) (hraw : .leaf raw ∈ l.tokens) :
    Trimmed raw.toList := by
  induction h with
  | atEnd => cases hraw
  | blank hb h ih => exact ih hraw
  | structural ht hcs h ih =>
    rcases List.mem_cons.mp hraw with rfl | hmem
    · cases ht
    · exact ih hmem
  | leaf htrimmed hv hleaf h ih =>
    rcases List.mem_cons.mp hraw with heq | hmem
    · cases heq
      rwa [String.toList_ofList]
    · exact ih hmem

/-- Where a leaf stops, no leaf begins. -/
theorem Scanned.head?_ne_leaf (h : Scanned cs l) (hstop : stopsLeaf true cs = true) :
    ∀ u ∈ l.tokens.head?, u.raw? = none := by
  cases h with
  | atEnd => nofun
  | @blank b cs l hb h =>
    rw [stopsLeaf_of_isBlank (hb b List.mem_cons_self)] at hstop
    cases hstop
  | structural ht hcs h =>
    intro u hu
    cases hu
    exact ht
  | @leaf raw v stop l htrimmed hv hleaf h =>
    rw [leafTail_space_of_stops hstop] at hleaf
    have hnil : raw ++ v = [] := congrArg Prod.fst (Except.ok.inj hleaf).symm
    exact absurd (List.append_eq_nil_iff.mp hnil).1 htrimmed.ne_nil

/-- **No two leaves stand side by side.** -/
theorem Scanned.isChain (h : Scanned cs l) :
    l.tokens.IsChain fun t u => t.raw? = none ∨ u.raw? = none := by
  induction h with
  | atEnd => exact .nil
  | blank hb h ih => exact ih
  | structural ht hcs h ih => exact List.isChain_cons.mpr ⟨fun _ _ => .inl ht, ih⟩
  | leaf htrimmed hv hleaf h ih =>
    have hstop := h.head?_ne_leaf (stopsLeaf_mono (leafTail_stops hleaf))
    exact List.isChain_cons.mpr ⟨fun u hu => .inr (hstop u hu), ih⟩

/-- **A keyword that is read stands between boundaries.** -/
theorem Scanned.bounded (h : Scanned cs l) (ht : l.Has before t after) :
    t.Bounded before after := by
  induction h generalizing before with
  | atEnd => exact absurd ht Layout.not_has_empty
  | @blank b cs l hb h ih =>
    obtain ⟨before, rfl, hhas⟩ := (Layout.has_indent hb).mp ht
    have hbound : endsBounded [b] = true := isBound_of_isBlank (hb b List.mem_cons_self)
    exact (ih hhas).append fun _ _ _ => hbound
  | @structural u cs l hu hcs h ih =>
    rcases Layout.has_cons.mp ht with ⟨rfl, rfl, rfl⟩ | ⟨before, rfl, hhas⟩
    · rwa [h.text_eq]
    · refine (ih hhas).append fun hnil op hop => ?_
      match u with
      | .opening => rfl
      | .closing => rfl
      | .operator op' =>
        -- Behind a keyword stands a boundary, and no keyword begins with one.
        have hword : cs = op.word.toList ++ after := by
          rw [← h.text_eq, hhas.text_eq, hnil, hop]
          rfl
        have hstarts := hcs.2
        rw [hword, startsBounded_word] at hstarts
        cases hstarts
  | @leaf raw v stop l htrimmed hv hleaf h ih =>
    rcases Layout.has_cons.mp ht with ⟨-, rfl, -⟩ | ⟨before, rfl, hcons⟩
    · trivial
    · obtain ⟨before, rfl, hhas⟩ := (Layout.has_indent hv).mp hcons
      rw [Token.spelling, String.toList_ofList, ← List.append_assoc]
      refine (ih hhas).append fun hnil op hop => ?_
      have hword : stop = op.word.toList ++ after := by
        rw [← h.text_eq, hhas.text_eq, hnil, hop]
        rfl
      have hstop := leafTail_stops hleaf
      rw [isBound_getLast?_getD, hword] at hstop
      exact bounded_of_stopsLeaf_word hstop

/-- Two ways to cut a text: the second cut is not in front of the first one, or it is. -/
theorem append_eq_append_cases {as bs cs ds : List Char} (h : as ++ bs = cs ++ ds) :
    (∃ us, cs = as ++ us ∧ bs = us ++ ds) ∨ ∃ us, us ≠ [] ∧ as = cs ++ us ∧ ds = us ++ bs := by
  rcases List.append_eq_append_iff.mp h with ⟨us, hcs, hbs⟩ | ⟨us, has, hds⟩
  · exact .inl ⟨us, hcs, hbs⟩
  · by_cases hus : us = []
    · subst hus
      exact .inl ⟨[], by simpa using has.symm, by simpa using hds.symm⟩
    · exact .inr ⟨us, hus, has, hds⟩

/-- A text begins with one parenthesis or keyword at most. -/
theorem spelling_append_inj {u : Token} (ht : t.raw? = none) (hu : u.raw? = none)
    (h : t.spelling ++ before = u.spelling ++ after) : t = u ∧ before = after := by
  have hall : ∀ t : Token, t.raw? = none → t = .opening ∨ t = .closing ∨ t = .operator .and ∨
      t = .operator .or := by
    intro t ht
    match t with
    | .opening => simp
    | .closing => simp
    | .operator .and => simp
    | .operator .or => simp
  rcases hall t ht with rfl | rfl | rfl | rfl <;>
    rcases hall u hu with rfl | rfl | rfl | rfl <;>
    simp_all [Token.spelling, toList_word_and, toList_word_or]

/-- Inside a keyword no parenthesis and no keyword begins. -/
theorem not_bounded_inside_word {op : Operator} {us rest : List Char} (ht : t.raw? = none)
    (hbounded : t.Bounded before after) (hbefore : before ≠ []) (hus : us ≠ [])
    (hword : op.word.toList = before ++ us) (htext : t.spelling ++ after = us ++ rest) : False := by
  have hends : endsBounded before = false := by
    have hmem : ∀ c ∈ before, c ∈ op.word.toList := by
      intro c hc
      rw [hword]
      exact List.mem_append_left us hc
    exact endsBounded_of_subset_word hbefore hmem
  have hstop := stopsLeaf_spelling ht hbounded
  obtain ⟨c, us, rfl⟩ := List.exists_cons_of_ne_nil hus
  have hc : isBound c = false := by
    have hmem : c ∈ op.word.toList := by
      rw [hword]
      exact List.mem_append_right before List.mem_cons_self
    exact isBound_of_mem_word hmem
  simp only [isBound, Bool.or_eq_false_iff] at hc
  rw [htext, hends, List.cons_append, stopsLeaf, hc.2] at hstop
  cases hstop

/-- **In a text without quotes and backslashes every parenthesis, and every keyword between
    boundaries, is a token of its own.** -/
theorem Scanned.has_of_literal (h : Scanned cs l) (hcs : Literal cs) (ht : t.raw? = none)
    (htext : cs = before ++ (t.spelling ++ after)) (hbounded : t.Bounded before after) :
    l.Has before t after := by
  induction h generalizing before with
  | atEnd =>
    have hnil := (List.append_eq_nil_iff.mp htext.symm).2
    exact absurd (List.append_eq_nil_iff.mp hnil).1 (spelling_ne_nil ht)
  | @blank b cs l hb h ih =>
    cases before with
    | nil =>
      have hstop := stopsLeaf_spelling ht hbounded
      rw [← List.nil_append (t.spelling ++ after), ← htext,
        stopsLeaf_of_isBlank (hb b List.mem_cons_self)] at hstop
      cases hstop
    | cons c before =>
      obtain ⟨rfl, hrest⟩ := List.cons.inj htext
      have hbounded' : t.Bounded ([b] ++ before) after := hbounded
      have hhas := ih (List.forall_mem_cons.mp hcs).2 hrest hbounded'.of_append
      exact (Layout.has_indent hb).mpr ⟨before, rfl, hhas⟩
  | @structural u cs l hu _ h ih =>
    have hrest : Literal cs := fun c hc => hcs c (List.mem_append_right _ hc)
    rcases append_eq_append_cases htext with ⟨us, rfl, hus⟩ | ⟨us, hne, hu', hus⟩
    · exact Layout.has_cons.mpr (.inr ⟨us, rfl, ih hrest hus hbounded.of_append⟩)
    · by_cases hbefore : before = []
      · subst hbefore
        obtain ⟨rfl, rfl⟩ := spelling_append_inj hu ht htext
        exact Layout.has_cons.mpr (.inl ⟨rfl, rfl, h.text_eq.symm⟩)
      · -- A parenthesis has no inside, and nothing begins inside a keyword.
        exfalso
        match u with
        | .operator op => exact not_bounded_inside_word ht hbounded hbefore hne hu' hus
        | .opening | .closing =>
          have hlen := congrArg List.length hu'
          have h₁ := List.length_pos_iff.mpr hbefore
          have h₂ := List.length_pos_iff.mpr hne
          rw [List.length_append] at hlen
          have hone : ∀ c : Char, [c].length = 1 := fun _ => rfl
          simp only [Token.spelling, hone] at hlen
          omega
  | @leaf raw v stop l _ hv hleaf h ih =>
    have hrest : Literal stop := fun c hc => hcs c (List.mem_append_right _ hc)
    rcases append_eq_append_cases htext with ⟨us, rfl, hus⟩ | ⟨us, hne, hraw, hus⟩
    · have hhas := ih hrest hus hbounded.of_append
      refine Layout.has_cons.mpr (.inr ⟨v ++ us, ?_, (Layout.has_indent hv).mpr ⟨us, rfl, hhas⟩⟩)
      rw [Token.spelling, String.toList_ofList, List.append_assoc]
    · exfalso
      have hgo := leafTail_goes_on hcs hleaf hraw hne
      have hstop := stopsLeaf_spelling ht hbounded
      rw [isBound_getLast?_getD, ← hus, hstop] at hgo
      cases hgo

end Properties

/-! ## 5. The layout of a text -/

/-- What no blank begins is found behind blanks in one way only. -/
theorem append_cons_inj_of_blank {v v' cs cs' : List Char} {c : Char} (hc : isBlank c = false)
    (hv : ∀ d ∈ v, isBlank d = true) (hv' : ∀ d ∈ v', isBlank d = true)
    (h : v ++ c :: cs = v' ++ c :: cs') : v = v' ∧ cs = cs' := by
  have hneg : ¬ isBlank c = true := by simp [hc]
  have hlead : ∀ u ds, (∀ d ∈ u, isBlank d = true) → (u ++ c :: ds).takeWhile isBlank = u := by
    intro u ds hu
    rw [List.takeWhile_append_of_pos hu, List.takeWhile_cons_of_neg hneg, List.append_nil]
  have heq : v = v' := by rw [← hlead v cs hv, h, hlead v' cs' hv']
  subst heq
  exact ⟨rfl, (List.cons.inj (List.append_cancel_left h)).2⟩

/-- A token begins with no blank, if a leaf does not. -/
theorem exists_spelling_cons {t : Token} (ht : ∀ raw, t = .leaf raw → Trimmed raw.toList) :
    ∃ c cs, t.spelling = c :: cs ∧ isBlank c = false := by
  match t with
  | .opening => exact ⟨'(', [], rfl, rfl⟩
  | .closing => exact ⟨')', [], rfl, rfl⟩
  | .operator .and => exact ⟨'A', ['N', 'D'], rfl, rfl⟩
  | .operator .or => exact ⟨'O', ['R'], rfl, rfl⟩
  | .leaf raw =>
    have hraw := ht raw rfl
    obtain ⟨c, cs, hcs⟩ := List.exists_cons_of_ne_nil hraw.ne_nil
    exact ⟨c, cs, hcs, hraw.head c (by rw [hcs]; rfl)⟩

/-- Of spelled tokens with blanks around them, the tokens tell the blanks. -/
theorem spelled_inj {lead lead' : List Char} {ps ps' : List (Token × List Char)}
    (hlead : ∀ c ∈ lead, isBlank c = true) (hlead' : ∀ c ∈ lead', isBlank c = true)
    (hgaps : ∀ p ∈ ps, ∀ c ∈ p.2, isBlank c = true)
    (hgaps' : ∀ p ∈ ps', ∀ c ∈ p.2, isBlank c = true)
    (hraw : ∀ raw, .leaf raw ∈ ps.map Prod.fst → Trimmed raw.toList)
    (htokens : ps.map Prod.fst = ps'.map Prod.fst)
    (htext : lead ++ spelled ps = lead' ++ spelled ps') : lead = lead' ∧ ps = ps' := by
  induction ps generalizing lead lead' ps' with
  | nil =>
    obtain rfl : ps' = [] := List.map_eq_nil_iff.mp htokens.symm
    exact ⟨by simpa [spelled] using htext, rfl⟩
  | cons p ps ih =>
    obtain ⟨t, gap⟩ := p
    cases ps' with
    | nil => cases htokens
    | cons p' ps' =>
      obtain ⟨t', gap'⟩ := p'
      obtain ⟨rfl, hrest⟩ := List.cons.inj htokens
      obtain ⟨hgap, hgaps⟩ := List.forall_mem_cons.mp hgaps
      obtain ⟨hgap', hgaps'⟩ := List.forall_mem_cons.mp hgaps'
      have ht : ∀ raw, t = .leaf raw → Trimmed raw.toList := by
        rintro raw rfl
        exact hraw raw List.mem_cons_self
      obtain ⟨c, cs, hcs, hc⟩ := exists_spelling_cons ht
      rw [spelled_cons, spelled_cons, hcs, List.cons_append, List.cons_append] at htext
      obtain ⟨rfl, hbehind⟩ := append_cons_inj_of_blank hc hlead hlead' htext
      obtain ⟨rfl, rfl⟩ := ih hgap hgap' hgaps hgaps'
        (fun raw hmem => hraw raw (List.mem_cons_of_mem _ hmem)) hrest
        (List.append_cancel_left hbehind)
      exact ⟨rfl, rfl⟩

/-- **Tokens are laid out in a text in one way only.** -/
theorem Layout.eq_of_text_eq {l l' : Layout} (htext : l.text = l'.text)
    (htokens : l.tokens = l'.tokens) (hraw : ∀ raw, .leaf raw ∈ l.tokens → Trimmed raw.toList) :
    l = l' := by
  obtain ⟨lead, pieces, hlead, hgaps⟩ := l
  obtain ⟨lead', pieces', hlead', hgaps'⟩ := l'
  obtain ⟨rfl, rfl⟩ := spelled_inj hlead hlead' hgaps hgaps' hraw htokens htext
  rfl

/-- **The scanner loses nothing but blanks.** A text that has tokens is the text of one layout of
    them. Every leaf has text and no blank at either end; no two leaves stand side by side; every
    keyword stands between boundaries. If the text has no quote and no backslash, then every
    parenthesis in it, and every keyword between boundaries, is a token of its own, and none is
    part of a leaf. -/
theorem tokenize_layout {s : String} {ts : List Token} (h : tokenize s = .ok ts) :
    ∃ l : Layout, l.text = s.toList ∧ l.tokens = ts ∧
      (∀ l' : Layout, l'.text = s.toList → l'.tokens = ts → l' = l) ∧
      (∀ raw, .leaf raw ∈ ts → Trimmed raw.toList) ∧
      (ts.IsChain fun t u => t.raw? = none ∨ u.raw? = none) ∧
      (∀ before op after, l.Has before (.operator op) after →
        endsBounded before = true ∧ startsBounded after = true) ∧
      (Literal s.toList →
        (∀ before (t : Token) after, t.raw? = none → s.toList = before ++ (t.spelling ++ after) →
          t.Bounded before after → l.Has before t after) ∧
        ∀ before raw after, l.Has before (.leaf raw) after →
          ∀ us (t : Token) vs, t.raw? = none → raw.toList = us ++ (t.spelling ++ vs) →
            ¬ t.Bounded (before ++ us) (vs ++ after)) := by
  obtain ⟨l, hl, rfl⟩ := exists_scanned (tokenize_eq_ok_iff.mp h)
  refine ⟨l, hl.text_eq, rfl, ?_, fun raw hraw => hl.trimmed hraw, hl.isChain,
    fun before op after hhas => hl.bounded hhas, fun hs => ⟨?_, ?_⟩⟩
  · intro l' htext htokens
    have htrimmed : ∀ raw, .leaf raw ∈ l'.tokens → Trimmed raw.toList := by
      intro raw hraw
      rw [htokens] at hraw
      exact hl.trimmed hraw
    exact Layout.eq_of_text_eq (htext.trans hl.text_eq.symm) htokens htrimmed
  · intro before t after ht htext hbounded
    exact hl.has_of_literal hs ht htext hbounded
  · intro before raw after hleaf us t vs ht hraw hbounded
    -- As a token of its own it would overlap the leaf.
    have htext : s.toList = before ++ us ++ (t.spelling ++ (vs ++ after)) := by
      rw [← hl.text_eq, hleaf.text_eq, Token.spelling, hraw]
      simp
    have hhas := hl.has_of_literal hs ht htext hbounded
    have hpos := List.length_pos_iff.mpr (spelling_ne_nil ht)
    have hlen := congrArg List.length hraw
    simp only [List.length_append] at hlen
    rcases hleaf.apart hhas with ⟨-, rfl, -⟩ | hle | hle
    · cases ht
    · simp only [Token.spelling, List.length_append] at hle
      omega
    · simp only [List.length_append] at hle
      omega

/-- In `(x y)AND z` the keyword stands between a parenthesis and a blank. -/
theorem tokenize_layout_keyword :
    ∃ l : Layout, l.text = "(x y)AND z".toList ∧
      l.tokens = [.opening, .leaf "x y", .closing, .operator .and, .leaf "z"] ∧
      l.Has "(x y)".toList (.operator .and) " z".toList := by
  have hscan : scan "(x y)AND z".toList =
      .ok [.opening, .leaf "x y", .closing, .operator .and, .leaf "z"] := by
    decide +kernel
  have hliteral : Literal "(x y)AND z".toList := by decide +kernel
  obtain ⟨l, htext, htokens, -, -, -, -, hown⟩ := tokenize_layout (tokenize_eq_ok_iff.mpr hscan)
  exact ⟨l, htext, htokens, (hown hliteral).1 _ (.operator .and) _ rfl rfl ⟨rfl, rfl⟩⟩

end PageWatch.Pattern
