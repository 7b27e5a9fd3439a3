import PageWatch.Proofs.Layout
import PageWatch.Regex.Basic

/-!
# Tokens with other blanks between them

The blanks between tokens can be chosen freely, as long as there are any: the scanner reads the same
tokens from every layout of them. A token that was read in one place is read in another one because
**it is read from its spelling alone** (`scan_spelling`). For a leaf this needs care at its end:

* a blank behind an escaping backslash is trimmed off, so the leaf ends in a backslash that now
  escapes a blank of the next gap, or nothing at all;
* a word at the end of a leaf that is no keyword there must not become one at the end of the text.

`leafTail_cut` says so of a leaf that is cut off in front of blanks at its end. Main statement:
`tokenize_respelled`.
-/

namespace PageWatch.Pattern

open PageWatch.Text

/-! ## 1. A leaf by itself -/

section Cut

variable {q c before : Char} {opens : Bool} {cs rest a after body us w v leaf stop : List Char}

theorem closeQuote_replace (h : closeQuote q cs = some (body, after)) (us : List Char) :
    closeQuote q (body ++ us) = some (body, us) := by
  fun_induction closeQuote q cs generalizing body after with
  | case1 => cases h
  | case2 => cases h
  | case3 c rest ih =>
    obtain ⟨⟨b, r⟩, hb, heq⟩ := Option.map_eq_some_iff.mp h
    obtain ⟨rfl, rfl⟩ := Prod.mk.inj heq
    simp [closeQuote, ih hb]
  | case4 rest h₁ h₂ =>
    cases h
    rw [List.singleton_append, closeQuote_cons (ne_backslash h₁ h₂), if_pos rfl]
  | case5 c rest h₁ h₂ hc ih =>
    obtain ⟨⟨b, r⟩, hb, heq⟩ := Option.map_eq_some_iff.mp h
    obtain ⟨rfl, rfl⟩ := Prod.mk.inj heq
    rw [List.cons_append, closeQuote_cons (ne_backslash h₁ h₂), if_neg hc, ih hb]
    rfl

/-- What is closed ends with its quote. -/
theorem getLast?_of_closeQuote (h : closeQuote q cs = some (body, after)) :
    body.getLast? = some q := by
  fun_induction closeQuote q cs generalizing body after with
  | case1 => cases h
  | case2 => cases h
  | case3 c rest ih =>
    obtain ⟨⟨b, r⟩, hb, heq⟩ := Option.map_eq_some_iff.mp h
    obtain ⟨rfl, rfl⟩ := Prod.mk.inj heq
    simp [List.getLast?_cons, ih hb]
  | case4 rest =>
    cases h
    rfl
  | case5 c rest _ _ _ ih =>
    obtain ⟨⟨b, r⟩, hb, heq⟩ := Option.map_eq_some_iff.mp h
    obtain ⟨rfl, rfl⟩ := Prod.mk.inj heq
    simp [List.getLast?_cons, ih hb]

/-- **What an atom can be**: a backslash at the end of the text, an escaped pair, a quotation, or
    one other character. -/
theorem atom_cases (h : atom opens c rest = .ok (a, after)) :
    (c = '\\' ∧ rest = [] ∧ a = ['\\'] ∧ after = []) ∨
      (∃ d, c = '\\' ∧ a = ['\\', d]) ∨
      (c ≠ '\\' ∧ (opens && isQuote c) = true ∧
        ∃ body, closeQuote c rest = some (body, after) ∧ a = c :: body) ∨
      (c ≠ '\\' ∧ (opens && isQuote c) = false ∧ a = [c]) := by
  unfold atom at h
  split at h
  · next hc =>
    split at h
    · cases h
      exact .inl ⟨hc, rfl, rfl, rfl⟩
    · cases h
      exact .inr (.inl ⟨_, hc, rfl⟩)
  · next hc =>
    split at h
    · next hq =>
      split at h
      · cases h
      · next body after' hbody =>
        cases h
        exact .inr (.inr (.inl ⟨hc, hq, body, hbody, rfl⟩))
    · next hq =>
      cases h
      exact .inr (.inr (.inr ⟨hc, Bool.eq_false_iff.mpr hq, rfl⟩))

/-- An atom stays one, whatever stands behind it, unless it is a backslash that escapes nothing. -/
theorem atom_replace (h : atom opens c rest = .ok (a, after)) (hus : rest = [] → us = []) :
    ∃ w, a ++ us = c :: w ∧ atom opens c w = .ok (a, us) := by
  rcases atom_cases h with ⟨rfl, hrest, rfl, -⟩ | ⟨d, rfl, rfl⟩ | ⟨hc, hq, body, hbody, rfl⟩ |
    ⟨hc, hq, rfl⟩
  · rw [hus hrest]
    exact ⟨[], rfl, rfl⟩
  · exact ⟨d :: us, rfl, rfl⟩
  · refine ⟨body ++ us, rfl, ?_⟩
    unfold atom
    rw [if_neg hc, if_pos hq, closeQuote_replace hbody]
  · exact ⟨us, rfl, atom_single opens hc hq us⟩

/-- At the end of the text an atom leaves nothing. -/
theorem eq_nil_of_atom (h : atom opens c [] = .ok (a, after)) : after = [] := by
  have hlen : after.length < 1 := length_lt_of_atom h
  exact List.length_eq_zero_iff.mp (Nat.lt_one_iff.mp hlen)

/-- Only an escaped pair can be cut in front of a blank at its end. -/
theorem eq_backslash_of_atom (h : atom opens c rest = .ok (a, after)) (ha : a = w ++ us)
    (hw : w ≠ []) (hne : us ≠ []) (hus : ∀ d ∈ us, isBlank d = true) : w = ['\\'] := by
  obtain ⟨d, w, rfl⟩ := List.exists_cons_of_ne_nil hw
  rw [List.cons_append] at ha
  rcases atom_cases h with ⟨-, -, rfl, -⟩ | ⟨e, -, rfl⟩ | ⟨-, hq, body, hbody, rfl⟩ |
    ⟨-, -, rfl⟩
  · obtain ⟨-, hnil⟩ := List.cons.inj ha
    exact absurd (List.append_eq_nil_iff.mp hnil.symm).2 hne
  · obtain ⟨rfl, he⟩ := List.cons.inj ha
    cases w with
    | nil => rfl
    | cons x w =>
      obtain ⟨-, hnil⟩ := List.cons.inj he
      exact absurd (List.append_eq_nil_iff.mp hnil.symm).2 hne
  · -- A quotation ends with a quote, which is no blank.
    exfalso
    obtain ⟨rfl, hbody'⟩ := List.cons.inj ha
    have hlast := getLast?_of_closeQuote hbody
    rw [hbody', List.getLast?_append, List.getLast?_eq_some_getLast hne] at hlast
    have hblank := hus _ (List.getLast_mem hne)
    rw [Option.some.inj hlast] at hblank
    have hquote : isQuote c = true := (Bool.and_eq_true_iff.mp hq).2
    rw [not_isQuote_of_isBlank hblank] at hquote
    cases hquote
  · obtain ⟨-, hnil⟩ := List.cons.inj ha
    exact absurd (List.append_eq_nil_iff.mp hnil.symm).2 hne

/-- Blanks are a boundary, and so is what stops a leaf that ends with none. -/
theorem startsBounded_blanks (hv : ∀ d ∈ v, isBlank d = true)
    (hstop : v = [] → stopsLeaf false stop = true) : startsBounded (v ++ stop) = true := by
  cases v with
  | cons b v => exact isBound_of_isBlank (hv b List.mem_cons_self)
  | nil =>
    have hstop := hstop rfl
    cases stop with
    | nil => rfl
    | cons s stop =>
      rw [stopsLeaf, Bool.false_and, Bool.or_false] at hstop
      simp [startsBounded, isBound, hstop]

/-- A word that is no keyword is none at the end of the text, if a boundary stood behind it. -/
theorem keyword?_of_append (h : keyword? (w ++ us) = none)
    (hus : ∀ op : Operator, w = op.word.toList → startsBounded us = true) :
    keyword? w = none := by
  cases hk : keyword? w with
  | none => rfl
  | some r =>
    obtain ⟨op, rest⟩ := r
    obtain ⟨rfl, hrest⟩ := keyword?_eq_some_iff.mp hk
    have hbounded : startsBounded (rest ++ us) = true := by
      cases rest with
      | cons c rest => exact hrest
      | nil => exact hus op (List.append_nil _)
    rw [List.append_assoc, keyword?_eq_some_iff.mpr ⟨rfl, hbounded⟩] at h
    cases h

/-- A leaf goes on where it is cut off in front of blanks, as it did in the longer text. -/
theorem not_stopsLeaf_of_append {bounded : Bool} (h : stopsLeaf bounded (c :: w ++ us) = false)
    (hus : ∀ op : Operator, c :: w = op.word.toList → startsBounded us = true) :
    stopsLeaf bounded (c :: w) = false := by
  rw [List.cons_append, stopsLeaf, Bool.or_eq_false_iff] at h
  obtain ⟨hparen, hkeyword⟩ := h
  cases bounded with
  | false => simp [stopsLeaf, hparen]
  | true =>
    have hk : keyword? (c :: w ++ us) = none := by simpa using hkeyword
    simp [stopsLeaf, hparen, keyword?_of_append hk hus]

/-- In front of the blanks at its end a leaf stops no earlier than it did. -/
theorem not_stopsLeaf_cut {bounded : Bool} (hv : ∀ d ∈ v, isBlank d = true)
    (h : stopsLeaf bounded (c :: w ++ (v ++ stop)) = false)
    (hstop : v = [] → stopsLeaf (endsBounded (c :: w)) stop = true) :
    stopsLeaf bounded (c :: w) = false := by
  refine not_stopsLeaf_of_append h fun op hop => startsBounded_blanks hv fun hnil => ?_
  have hends : endsBounded (c :: w) = false := by
    rw [hop]
    cases op <;> rfl
  rw [← hends]
  exact hstop hnil

/-- **A leaf that is cut off in front of blanks at its end is a leaf by itself.** -/
theorem leafTail_cut (hv : ∀ d ∈ v, isBlank d = true) (h : leafTail before cs = .ok (leaf, stop))
    (hleaf : leaf = w ++ v) : leafTail before w = .ok (w, []) := by
  have hnil : ∀ before, leafTail before [] = .ok ([], []) := fun _ => by rw [leafTail]
  fun_induction leafTail before cs generalizing leaf stop w v with
  | case1 =>
    cases h
    rw [(List.append_eq_nil_iff.mp hleaf.symm).1]
    exact hnil _
  | case2 =>
    cases h
    rw [(List.append_eq_nil_iff.mp hleaf.symm).1]
    exact hnil _
  | case3 => cases h
  | case4 before c rest hgo a after ha ih =>
    have hstop := leafTail_stops ((leafTail_of_not_stops (Bool.eq_false_iff.mpr hgo)).trans
      ((leafFrom_of_atom ha).trans h))
    obtain ⟨⟨more, stop'⟩, hmore, hr⟩ := map_eq_ok_iff.mp h
    obtain ⟨rfl, rfl⟩ := Prod.mk.inj hr
    by_cases hw : w = []
    · rw [hw]
      exact hnil _
    obtain ⟨d, w, rfl⟩ := List.exists_cons_of_ne_nil hw
    have htext : c :: rest = d :: w ++ (v ++ stop') := by
      rw [atom_append ha, leafTail_append hmore, ← List.append_assoc, hleaf, List.append_assoc]
    obtain rfl : c = d := (List.cons.inj htext).1
    have hgo' : stopsLeaf (isBound before) (c :: w) = false := by
      have hlong : stopsLeaf (isBound before) (c :: w ++ (v ++ stop')) = false := by
        rw [← htext]
        exact Bool.eq_false_iff.mpr hgo
      refine not_stopsLeaf_cut hv hlong ?_
      rintro rfl
      rw [hleaf, List.append_nil, List.getLast?_eq_some_getLast hw] at hstop
      rw [endsBounded, List.getLast?_eq_some_getLast hw]
      exact hstop
    rw [leafTail_of_not_stops hgo']
    -- The cut is behind the first atom or inside it.
    rcases append_eq_append_cases hleaf with ⟨us, hw', hmore'⟩ | ⟨us, hne, ha', hv'⟩
    · have hus : rest = [] → us = [] := by
        rintro rfl
        have hafter := leafTail_append hmore
        rw [eq_nil_of_atom ha] at hafter
        rw [(List.append_eq_nil_iff.mp hafter.symm).1] at hmore'
        exact (List.append_eq_nil_iff.mp hmore'.symm).1
      obtain ⟨w', hw'', hatom⟩ := atom_replace ha hus
      obtain rfl : w = w' := (List.cons.inj (hw'.trans hw'')).2
      rw [leafFrom_of_atom hatom, ih hv hmore hmore', map_ok, hw']
    · have hblank : ∀ d ∈ us, isBlank d = true := by
        intro d hd
        rw [hv'] at hv
        exact hv d (List.mem_append_left more hd)
      obtain ⟨rfl, rfl⟩ := List.cons.inj (eq_backslash_of_atom ha ha' hw hne hblank)
      have hatom : atom (opensQuoteAfter before) '\\' [] = .ok (['\\'], []) := rfl
      rw [leafFrom_of_atom hatom, hnil]
      rfl

end Cut

/-! ## 2. Tokens by themselves -/

theorem trim_of_trimmed {cs : List Char} (h : Trimmed cs) : trim cs = cs := by
  obtain ⟨c, r, rfl⟩ := List.exists_cons_of_ne_nil h.ne_nil
  have hc : isBlank c = false := h.head c rfl
  rcases List.eq_nil_or_concat r with rfl | ⟨r, d, rfl⟩
  · simp [trim, trimLeft, trimRight, hc]
  · rw [List.concat_eq_append] at h ⊢
    have hlast : (c :: r ++ [d]).getLast? = some d := List.getLast?_concat
    exact trim_eq_self hc (h.last d hlast)

/-- A leaf by itself is one token. -/
theorem scan_of_leafTail {raw : List Char} (hraw : Trimmed raw)
    (h : leafTail ' ' raw = .ok (raw, [])) : scan raw = .ok [.leaf (String.ofList raw)] := by
  obtain ⟨c, r, rfl⟩ := List.exists_cons_of_ne_nil hraw.ne_nil
  have hgo : stopsLeaf true (c :: r) = false := by
    refine Bool.eq_false_iff.mpr fun hstop => ?_
    rw [leafTail_space_of_stops hstop] at h
    cases h
  have hblank : isBlank c = false := hraw.head c rfl
  rw [← leafText_eq_leafTail hgo] at h
  rw [stopsLeaf, Bool.true_and, Bool.or_eq_false_iff] at hgo
  obtain ⟨hparen, hkeyword⟩ := hgo
  have hc : isBound c = false := by rw [isBound, hblank, hparen]; rfl
  have hk : keyword? (c :: r) = none := by simpa using hkeyword
  have htoken : leafToken (c :: r) = [.leaf (String.ofList (c :: r))] := by
    rw [leafToken, trim_of_trimmed hraw]
    rfl
  rw [scan_leaf hc hk h, htoken, scan, map_ok, List.append_nil]

/-- **A token that was read is read from its spelling alone.** -/
theorem Scanned.scan_spelling {cs : List Char} {l : Layout} {t : Token} (h : Scanned cs l)
    (ht : t ∈ l.tokens) : scan t.spelling = .ok [t] := by
  induction h with
  | atEnd => cases ht
  | blank hb h ih => exact ih ht
  | @structural u cs l hu hcs h ih =>
    rcases List.mem_cons.mp ht with rfl | hmem
    · match t with
      | .opening => rw [Token.spelling, scan_opening, scan, map_ok]
      | .closing => rw [Token.spelling, scan_closing, scan, map_ok]
      | .operator op =>
        have hk : keyword? op.word.toList = some (op, []) :=
          keyword?_eq_some_iff.mpr ⟨(List.append_nil _).symm, rfl⟩
        rw [Token.spelling, scan_keyword hk, scan, map_ok]
    · exact ih hmem
  | @leaf raw v stop l hraw hv hleaf h ih =>
    rcases List.mem_cons.mp ht with rfl | hmem
    · rw [Token.spelling, String.toList_ofList]
      exact scan_of_leafTail hraw (leafTail_cut hv hleaf rfl)
    · exact ih hmem

/-! ## 3. Spaced tokens -/

section Spaced

variable {t : Token} {gap rest : List Char}

theorem startsBounded_gap (hgap : ∀ c ∈ gap, isBlank c = true) (hsep : gap = [] → rest = []) :
    startsBounded (gap ++ rest) = true := by
  refine startsBounded_blanks hgap fun hnil => ?_
  rw [hsep hnil]
  rfl

/-- **A token that is read from its spelling alone is read in front of blanks**, if a leaf has a
    stop behind them. The blanks may be missing at the end of the text only. -/
theorem scan_spelling_append (ht : scan t.spelling = .ok [t])
    (hgap : ∀ c ∈ gap, isBlank c = true) (hsep : gap = [] → rest = [])
    (hstop : t.raw? ≠ none → stopsLeaf true rest = true) :
    scan (t.spelling ++ (gap ++ rest)) = (scan rest).map (t :: ·) := by
  match t with
  | .opening => rw [Token.spelling, List.singleton_append, scan_opening, scan_blanks hgap]
  | .closing => rw [Token.spelling, List.singleton_append, scan_closing, scan_blanks hgap]
  | .operator op =>
    have hk : keyword? (op.word.toList ++ (gap ++ rest)) = some (op, gap ++ rest) :=
      keyword?_eq_some_iff.mpr ⟨rfl, startsBounded_gap hgap hsep⟩
    rw [Token.spelling, scan_keyword hk, scan_blanks hgap]
  | .leaf raw =>
    by_cases hne : gap = []
    · rw [hsep hne, hne, List.append_nil, List.append_nil, ht, scan]
      rfl
    · exact scan_append ht hne hgap (hstop (Option.some_ne_none raw))

/-- Blanks stand behind all tokens but the last. -/
def Spaced (ps : List (Token × List Char)) : Prop := ∀ p ∈ ps.dropLast, p.2 ≠ []

theorem Spaced.tail {p : Token × List Char} {ps : List (Token × List Char)}
    (h : Spaced (p :: ps)) : Spaced ps := by
  intro q hq
  refine h q ?_
  rw [List.dropLast_cons_of_ne_nil (by rintro rfl; cases hq)]
  exact List.mem_cons_of_mem p hq

theorem Spaced.cons {p : Token × List Char} {ps : List (Token × List Char)} (h : Spaced ps)
    (hp : p.2 ≠ []) : Spaced (p :: ps) := by
  intro q hq
  by_cases hps : ps = []
  · rw [hps] at hq
    cases hq
  · rw [List.dropLast_cons_of_ne_nil hps] at hq
    rcases List.mem_cons.mp hq with rfl | hmem
    · exact hp
    · exact h q hmem

/-- Where no blank stands behind a token, nothing does. -/
theorem Spaced.eq_nil {p : Token × List Char} {ps : List (Token × List Char)}
    (h : Spaced (p :: ps)) (hp : p.2 = []) : spelled ps = [] := by
  cases ps with
  | nil => rfl
  | cons q ps => exact absurd hp (h p List.mem_cons_self)

/-- Spaced tokens that are no leaf at their beginning stop the leaf in front of them. -/
theorem stopsLeaf_spelled {ps : List (Token × List Char)}
    (hgaps : ∀ p ∈ ps, ∀ c ∈ p.2, isBlank c = true) (hspaced : Spaced ps)
    (hfirst : ∀ t ∈ (ps.map Prod.fst).head?, t.raw? = none) :
    stopsLeaf true (spelled ps) = true := by
  cases ps with
  | nil => rfl
  | cons p ps =>
    obtain ⟨u, gap⟩ := p
    have hu : u.raw? = none := hfirst u rfl
    have hgap := startsBounded_gap (hgaps _ List.mem_cons_self) hspaced.eq_nil
    have hbounded : u.Bounded [] (gap ++ spelled ps) := by
      match u with
      | .operator op => exact ⟨rfl, hgap⟩
      | .opening | .closing => trivial
    rw [spelled_cons]
    exact stopsLeaf_spelling hu hbounded

/-- **Spaced tokens are read again**, by induction on them: each is read from its spelling, and the
    blanks behind it keep the next one apart. -/
theorem scan_spelled {ps : List (Token × List Char)}
    (hgaps : ∀ p ∈ ps, ∀ c ∈ p.2, isBlank c = true) (hspaced : Spaced ps)
    (halone : ∀ t ∈ ps.map Prod.fst, scan t.spelling = .ok [t])
    (hchain : (ps.map Prod.fst).IsChain fun t u => t.raw? = none ∨ u.raw? = none) :
    scan (spelled ps) = .ok (ps.map Prod.fst) := by
  induction ps with
  | nil => rw [spelled, List.flatMap_nil, scan, List.map_nil]
  | cons p ps ih =>
    obtain ⟨t, gap⟩ := p
    obtain ⟨hgap, hgaps⟩ := List.forall_mem_cons.mp hgaps
    obtain ⟨ht, halone⟩ := List.forall_mem_cons.mp halone
    obtain ⟨hnext, hchain⟩ := List.isChain_cons.mp hchain
    have hstop : t.raw? ≠ none → stopsLeaf true (spelled ps) = true := fun hleaf =>
      stopsLeaf_spelled hgaps hspaced.tail fun u hu => (hnext u hu).resolve_left hleaf
    rw [spelled_cons, scan_spelling_append ht hgap hspaced.eq_nil hstop,
      ih hgaps hspaced.tail halone hchain]
    rfl

end Spaced

/-! ## 4. Texts -/

/-- The layout as a text. -/
def Layout.written (l : Layout) : String := String.ofList l.text

/-- Tokens with one blank between them. -/
def Layout.normal : List Token → Layout
  | [] => .empty
  | [t] => Layout.empty.cons t
  | t :: u :: ts =>
    have hblank : ∀ c ∈ [' '], isBlank c = true := List.forall_mem_singleton.mpr rfl
    ((Layout.normal (u :: ts)).indent [' '] hblank).cons t

/-- The text with one blank between its tokens. A text that cannot be scanned stays as it is. -/
def normalSpacing (s : String) : String :=
  match tokenize s with
  | .ok ts => (Layout.normal ts).written
  | .error _ => s

theorem tokens_normal (ts : List Token) : (Layout.normal ts).tokens = ts := by
  match ts with
  | [] => rfl
  | [t] => rfl
  | t :: u :: ts =>
    rw [Layout.normal, Layout.tokens_cons, Layout.tokens_indent, tokens_normal]

theorem spaced_normal (ts : List Token) : Spaced (Layout.normal ts).pieces := by
  match ts with
  | [] => nofun
  | [t] => nofun
  | t :: u :: ts => exact (spaced_normal (u :: ts)).cons (List.cons_ne_nil _ _)

section Engine

variable [Regex.Engine]

/-- Expressions are told by their tokens. -/
theorem parse_eq_of_tokenize {s s' : String} {ts : List Token} (h : tokenize s = .ok ts)
    (h' : tokenize s' = .ok ts) (rules : Rules) : parse s rules = parse s' rules := by
  rw [parse, parse, h, h']

/-- **Tokens can be laid out anew.** The tokens of a text are read again from every layout of them
    that has blanks between them, and so is the expression. In particular one blank between the
    tokens is a normal form: making it changes neither the tokens nor the expression, and making it
    twice makes it once. -/
theorem tokenize_respelled {s : String} {ts : List Token} (h : tokenize s = .ok ts) :
    (∀ l : Layout, l.tokens = ts → Spaced l.pieces →
      tokenize l.written = .ok ts ∧ ∀ rules, parse l.written rules = parse s rules) ∧
    tokenize (normalSpacing s) = .ok ts ∧ normalSpacing (normalSpacing s) = normalSpacing s ∧
      ∀ rules, parse (normalSpacing s) rules = parse s rules := by
  obtain ⟨l₀, hscan, rfl⟩ := exists_scanned (tokenize_eq_ok_iff.mp h)
  have hall : ∀ l : Layout, l.tokens = l₀.tokens → Spaced l.pieces →
      tokenize l.written = .ok l₀.tokens := by
    intro l hl hspaced
    have halone : ∀ t ∈ l.tokens, scan t.spelling = .ok [t] := by
      intro t ht
      rw [hl] at ht
      exact hscan.scan_spelling ht
    have hchain := hscan.isChain
    rw [← hl] at hchain ⊢
    rw [tokenize_eq_ok_iff, Layout.written, String.toList_ofList, Layout.text,
      scan_blanks l.lead_blank]
    exact scan_spelled l.gaps_blank hspaced halone hchain
  have hnormal : normalSpacing s = (Layout.normal l₀.tokens).written := by
    rw [normalSpacing, h]
  have hagain : tokenize (normalSpacing s) = .ok l₀.tokens := by
    rw [hnormal]
    exact hall _ (tokens_normal _) (spaced_normal _)
  refine ⟨fun l hl hspaced => ?_, hagain, ?_, parse_eq_of_tokenize hagain h⟩
  · have hl := hall l hl hspaced
    exact ⟨hl, parse_eq_of_tokenize hl h⟩
  · rw [hnormal] at hagain ⊢
    rw [normalSpacing, hagain]

end Engine

/-- In `a\  AND(b)` the first leaf ends in a backslash, which escapes one of the blanks behind it,
    here and in the normal form. -/
theorem tokenize_respelled_backslash :
    tokenize "a\\  AND(b)" = .ok [.leaf "a\\", .operator .and, .opening, .leaf "b", .closing] ∧
      normalSpacing "a\\  AND(b)" = "a\\ AND ( b )" ∧
      tokenize "a\\ AND ( b )" =
        .ok [.leaf "a\\", .operator .and, .opening, .leaf "b", .closing] := by
  have hscan : scan "a\\  AND(b)".toList =
      .ok [.leaf "a\\", .operator .and, .opening, .leaf "b", .closing] := by
    decide +kernel
  have h := tokenize_eq_ok_iff.mpr hscan
  have hnormal : normalSpacing "a\\  AND(b)" = "a\\ AND ( b )" := by
    rw [normalSpacing, h]
    decide +kernel
  have hagain := (tokenize_respelled h).2.1
  rw [hnormal] at hagain
  exact ⟨h, hnormal, hagain⟩

end PageWatch.Pattern
