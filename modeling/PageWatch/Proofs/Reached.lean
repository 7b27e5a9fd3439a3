import PageWatch.Proofs.Spacing

/-!
# What the scanner has read

At every place of a text the scanner has read what stands in front and has not yet looked at what
follows, apart from a keyword that might begin there. So the text behind a place can be exchanged,
and what stands in front is read as before.

* `LeafReads`: a leaf has read `us` and comes to `rest`, atom by atom;
* `Passes`: the scanner has read `front`, with its tokens, and comes to `rest` between two tokens;
* `Reached`: **the scanner is inside a leaf**, which is the second of these and then the first;
* `LeafReads.replace` and `Passes.replace`: another `rest` changes neither. Where it begins with the
  same character the keywords in front stay what they were, unless that character is an inner
  letter of a keyword (`isInner`).

Main statements: `Reached.scan_replace`, what is scanned with another `rest`, and
`exists_reached_of_error`, where the scanner is when it fails.
-/

namespace PageWatch.Pattern

open PageWatch.Text

/-! ## 1. Seams -/

/-- A letter of a keyword behind its first one. -/
def isInner (c : Char) : Bool := c = 'N' || c = 'D' || c = 'R'

section Seam

variable {c d : Char} {w r r' rest us : List Char} {op : Operator} {t : Token}

/-- Behind the beginning of a keyword stands one of its inner letters. -/
theorem isInner_of_word (hword : op.word.toList = w ++ d :: us) (hw : w ≠ []) :
    isInner d = true := by
  obtain ⟨c, w, rfl⟩ := List.exists_cons_of_ne_nil hw
  have hmem : d ∈ op.word.toList.tail := by
    rw [hword, List.cons_append, List.tail_cons]
    exact List.mem_append_right w List.mem_cons_self
  cases op with
  | and =>
    have hall : ∀ d ∈ ['N', 'D'], isInner d = true := List.all_eq_true.mp rfl
    exact hall d hmem
  | or =>
    have hall : ∀ d ∈ ['R'], isInner d = true := List.all_eq_true.mp rfl
    exact hall d hmem

/-- A parenthesis or a keyword begins with no inner letter. -/
theorem exists_spelling_cons_of_structural (ht : t.raw? = none) :
    ∃ d cs, t.spelling = d :: cs ∧ isInner d = false := by
  match t with
  | .opening => exact ⟨'(', [], rfl, rfl⟩
  | .closing => exact ⟨')', [], rfl, rfl⟩
  | .operator .and => exact ⟨'A', ['N', 'D'], rfl, rfl⟩
  | .operator .or => exact ⟨'O', ['R'], rfl, rfl⟩

/-- What stands behind the next character has no influence on a keyword in front of it. -/
theorem keyword?_seam (hw : w ≠ []) (hd : isInner d = false) (h : keyword? (w ++ d :: r) = none) :
    keyword? (w ++ d :: r') = none := by
  cases hk : keyword? (w ++ d :: r') with
  | none => rfl
  | some p =>
    obtain ⟨op, t⟩ := p
    obtain ⟨htext, hbounded⟩ := keyword?_eq_some_iff.mp hk
    rcases append_eq_append_cases htext with ⟨us, hword, ht⟩ | ⟨us, hne, hw', ht⟩
    · cases us with
      | nil =>
        -- The keyword ends in front of `d`, which bounds it or does not.
        have hbounded' : startsBounded (d :: r) = true := by
          rw [List.nil_append] at ht
          rw [← ht] at hbounded
          exact hbounded
        rw [List.append_nil] at hword
        rw [keyword?_eq_some_iff.mpr ⟨by rw [hword], hbounded'⟩] at h
        cases h
      | cons u us =>
        obtain ⟨rfl, -⟩ := List.cons.inj ht
        rw [isInner_of_word hword hw] at hd
        cases hd
    · -- The keyword ends earlier, in front of a character of `w`.
      have hbounded' : startsBounded (us ++ d :: r) = true := by
        obtain ⟨u, us, rfl⟩ := List.exists_cons_of_ne_nil hne
        rw [ht] at hbounded
        exact hbounded
      have hlong : keyword? (w ++ d :: r) = some (op, us ++ d :: r) :=
        keyword?_eq_some_iff.mpr ⟨by rw [hw', List.append_assoc], hbounded'⟩
      rw [hlong] at h
      cases h

/-- Where a leaf goes on, it goes on whatever stands behind the next character. -/
theorem not_stopsLeaf_seam {bounded : Bool} (hw : w ≠ []) (hd : isInner d = false)
    (h : stopsLeaf bounded (w ++ d :: r) = false) : stopsLeaf bounded (w ++ d :: r') = false := by
  obtain ⟨c, w, rfl⟩ := List.exists_cons_of_ne_nil hw
  rw [List.cons_append, stopsLeaf, Bool.or_eq_false_iff] at h ⊢
  obtain ⟨hparen, hkeyword⟩ := h
  refine ⟨hparen, ?_⟩
  cases bounded with
  | false => rfl
  | true =>
    have hk : keyword? (c :: w ++ d :: r) = none := by simpa using hkeyword
    have hk' : keyword? (c :: w ++ d :: r') = none := keyword?_seam hw hd hk
    simpa using hk'

/-- A leaf begins here: something that is neither a boundary nor a keyword. -/
def startsLeaf : List Char → Bool
  | [] => false
  | c :: cs => !isBound c && (keyword? (c :: cs)).isNone

theorem startsLeaf_cons :
    startsLeaf (c :: r) = true ↔ isBound c = false ∧ keyword? (c :: r) = none := by
  simp [startsLeaf]

theorem startsLeaf_of_ne (h₁ : c ≠ '(') (h₂ : c ≠ ')') (hb : ¬isBlank c = true)
    (hk : keyword? (c :: r) = none) : startsLeaf (c :: r) = true :=
  startsLeaf_cons.mpr ⟨not_isBound_iff.mpr ⟨h₁, h₂, Bool.eq_false_iff.mpr hb⟩, hk⟩

theorem not_stopsLeaf_of_startsLeaf (h : startsLeaf rest = true) : stopsLeaf true rest = false := by
  cases rest with
  | nil => cases h
  | cons c r =>
    obtain ⟨hc, hk⟩ := startsLeaf_cons.mp h
    have hparen : isParen c = false := (Bool.or_eq_false_iff.mp hc).2
    simp [stopsLeaf, hparen, hk]

theorem startsLeaf_seam (hw : w ≠ []) (hd : isInner d = false)
    (h : startsLeaf (w ++ d :: r) = true) : startsLeaf (w ++ d :: r') = true := by
  obtain ⟨c, w, rfl⟩ := List.exists_cons_of_ne_nil hw
  obtain ⟨hc, hk⟩ := startsLeaf_cons.mp h
  have hk' : keyword? (c :: w ++ d :: r') = none := keyword?_seam hw hd hk
  exact startsLeaf_cons.mpr ⟨hc, hk'⟩

end Seam

/-! ## 2. Inside a leaf -/

/-- **From behind `before` on a leaf reads `us` and comes to `rest`**; `b` is the character in front
    of it. -/
inductive LeafReads : Char → List Char → List Char → Char → List Char → Prop
  | here {b : Char} {rest : List Char} : LeafReads b rest [] b rest
  | atom {before c b : Char} {cs a after us rest : List Char}
      (hgo : stopsLeaf (isBound before) (c :: cs) = false)
      (ha : atom (opensQuoteAfter before) c cs = .ok (a, after))
      (h : LeafReads (a.getLast?.getD c) after us b rest) :
      LeafReads before (c :: cs) (a ++ us) b rest

section InsideLeaf

variable {before b q c d : Char} {cs us rest rest' leaf stop e r r' z z' : List Char} {t : Token}

theorem LeafReads.text_eq (h : LeafReads before cs us b rest) : cs = us ++ rest := by
  induction h with
  | here => rfl
  | atom hgo ha h ih => rw [atom_append ha, ih, List.append_assoc]

theorem LeafReads.last_eq (h : LeafReads before cs us b rest) : us.getLast?.getD before = b := by
  induction h with
  | here => rfl
  | @atom before c b cs a after us rest hgo ha h ih =>
    rw [getLast?_getD_append, List.getLast?_eq_some_getLast (atom_ne_nil ha)]
    rw [List.getLast?_eq_some_getLast (atom_ne_nil ha)] at ih
    exact ih

/-- What is left of a leaf is read from `rest` on. -/
theorem LeafReads.leafTail_eq (h : LeafReads before cs us b rest) :
    leafTail before cs = (leafTail b rest).map fun (more, stop) => (us ++ more, stop) := by
  induction h with
  | here => exact (map_nil_append_fst _).symm
  | atom hgo ha h ih =>
    rw [leafTail_of_not_stops hgo, leafFrom_of_atom ha, ih, map_map]
    simp only [List.append_assoc]

theorem LeafReads.leafTail_of_ok {more : List Char} (h : LeafReads before cs us b rest)
    (hrest : leafTail b rest = .ok (more, stop)) :
    leafTail before cs = .ok (us ++ more, stop) := by
  rw [h.leafTail_eq, hrest]
  rfl

theorem leafReads_of_ok (h : leafTail before cs = .ok (leaf, stop)) :
    LeafReads before cs leaf (leaf.getLast?.getD before) stop := by
  fun_induction leafTail before cs generalizing leaf stop with
  | case1 =>
    cases h
    exact .here
  | case2 =>
    cases h
    exact .here
  | case3 => cases h
  | case4 before c rest hgo a after ha ih =>
    obtain ⟨⟨more, stop'⟩, hmore, hr⟩ := map_eq_ok_iff.mp h
    obtain ⟨rfl, rfl⟩ := Prod.mk.inj hr
    have hreads := LeafReads.atom (Bool.eq_false_iff.mpr hgo) ha (ih hmore)
    have hlast := hreads.last_eq
    rwa [← hlast] at hreads

/-- An atom fails at a quote that opens a quotation without an end. -/
theorem atom_eq_error {opens : Bool} (h : atom opens c r = .error e) :
    e = c :: r ∧ opens = true ∧ isQuote c = true ∧ closeQuote c r = none := by
  unfold atom at h
  split at h
  · split at h <;> cases h
  · split at h
    · next hq =>
      obtain ⟨hopens, hquote⟩ := Bool.and_eq_true_iff.mp hq
      split at h
      · next hclose =>
        cases h
        exact ⟨rfl, hopens, hquote, hclose⟩
      · cases h
    · cases h

/-- **A leaf fails where a quotation without an end is opened.** -/
theorem leafReads_of_error (h : leafTail before cs = .error e) :
    ∃ us b q r, LeafReads before cs us b (q :: r) ∧ e = q :: r ∧ opensQuoteAfter b = true ∧
      isQuote q = true ∧ closeQuote q r = none := by
  fun_induction leafTail before cs with
  | case1 => cases h
  | case2 => cases h
  | case3 before c rest hgo e' ha =>
    cases h
    obtain ⟨rfl, hopens, hquote, hclose⟩ := atom_eq_error ha
    exact ⟨[], before, c, rest, .here, rfl, hopens, hquote, hclose⟩
  | case4 before c rest hgo a after ha ih =>
    obtain ⟨us, b, q, r, hreads, he, hopens, hquote, hclose⟩ := ih (map_eq_error_iff.mp h)
    exact ⟨a ++ us, b, q, r, .atom (Bool.eq_false_iff.mpr hgo) ha hreads, he, hopens, hquote,
      hclose⟩

/-- **What a leaf has read it reads in front of another `rest` too**, if it goes on everywhere
    where it did. -/
theorem LeafReads.replace (h : LeafReads before cs us b rest) (hne : rest ≠ [])
    (hgo : ∀ w, w <:+ us → w ≠ [] → ∀ bounded, stopsLeaf bounded (w ++ rest) = false →
      stopsLeaf bounded (w ++ rest') = false) :
    LeafReads before (us ++ rest') us b rest' := by
  induction h with
  | here => exact .here
  | @atom before c b cs a after us rest hgo' ha h ih =>
    have hcs : cs = [] → us ++ rest' = [] := by
      intro hnil
      rw [hnil] at ha
      have hafter := h.text_eq
      rw [eq_nil_of_atom ha] at hafter
      exact absurd (List.append_eq_nil_iff.mp hafter.symm).2 hne
    obtain ⟨w, hw, hatom⟩ := atom_replace ha hcs
    have hgo'' : stopsLeaf (isBound before) (c :: w) = false := by
      rw [← hw, ← List.append_assoc]
      refine hgo (a ++ us) List.suffix_rfl (by simp [atom_ne_nil ha]) _ ?_
      rw [List.append_assoc, ← h.text_eq, ← atom_append ha]
      exact hgo'
    rw [List.append_assoc, hw]
    exact .atom hgo'' hatom (ih hne fun w hw => hgo w (hw.trans (List.suffix_append a us)))

/-- The same, if the other `rest` begins with the same character. -/
theorem LeafReads.replace_cons (h : LeafReads before cs us b (d :: r)) (hd : isInner d = false)
    (r' : List Char) : LeafReads before (us ++ d :: r') us b (d :: r') :=
  h.replace (List.cons_ne_nil d r) fun _ _ hw _ hgo => not_stopsLeaf_seam hw hd hgo

/-- What was read ends with no keyword, if its last character is no letter of one. -/
theorem LeafReads.ne_word {w : List Char} {op : Operator} (h : LeafReads before cs us b rest)
    (hb : b ∉ op.word.toList) (hw : w <:+ us) (hne : w ≠ []) : w ≠ op.word.toList := by
  rintro rfl
  have hlast : op.word.toList.getLast?.getD before = b := by
    obtain ⟨x, rfl⟩ := hw
    rw [← h.last_eq, getLast?_getD_append, List.getLast?_eq_some_getLast hne]
    rfl
  rw [List.getLast?_eq_some_getLast hne] at hlast
  rw [← hlast] at hb
  exact hb (List.getLast_mem hne)

/-- The same, if nothing follows and what was read ends with no letter of a keyword. -/
theorem LeafReads.leafTail_front (h : LeafReads before cs us b rest) (hne : rest ≠ [])
    (hb : ∀ op : Operator, b ∉ op.word.toList) : leafTail before us = .ok (us, []) := by
  have hreads : LeafReads before (us ++ []) us b [] := by
    refine h.replace hne fun w hw hne' bounded hgo => ?_
    rw [List.append_nil]
    obtain ⟨c, w, rfl⟩ := List.exists_cons_of_ne_nil hne'
    exact not_stopsLeaf_of_append hgo fun op hop => absurd hop (h.ne_word (hb op) hw hne')
  have htail : leafTail b [] = .ok ([], []) := by rw [leafTail]
  have hok := hreads.leafTail_of_ok htail
  rwa [List.append_nil] at hok

/-- **A leaf that stops at a parenthesis or a keyword stops there**, whatever stands behind. -/
theorem leafTail_replace (ht : t.raw? = none)
    (h : leafTail before cs = .ok (leaf, t.spelling ++ z)) (hz : t.Bounded [] z') :
    leafTail before (leaf ++ (t.spelling ++ z')) = .ok (leaf, t.spelling ++ z') := by
  have hreads := leafReads_of_ok h
  have hstop := leafTail_stops h
  have hstop' : stopsLeaf (isBound (leaf.getLast?.getD before)) (t.spelling ++ z') = true := by
    match t with
    | .opening => rfl
    | .closing => rfl
    | .operator op =>
      have hbound := bounded_of_stopsLeaf_word hstop
      have hbounded : (Token.operator op).Bounded [] z' := ⟨rfl, hz.2⟩
      rw [hbound]
      exact stopsLeaf_spelling rfl hbounded
  obtain ⟨d, s, hspelling, hd⟩ := exists_spelling_cons_of_structural ht
  rw [hspelling, List.cons_append] at hreads hstop' ⊢
  have hok := (hreads.replace_cons hd (s ++ z')).leafTail_of_ok (leafTail_of_stops hstop')
  rwa [List.append_nil] at hok

end InsideLeaf

/-! ## 3. Between two tokens -/

/-- **The scanner reads `front`, with the tokens `ts`, and comes to `rest`** between two tokens. -/
inductive Passes : List Char → List Char → List Token → List Char → Prop
  | here {rest : List Char} : Passes rest [] [] rest
  | blank {b : Char} {cs front rest : List Char} {ts : List Token} (hb : isBlank b = true)
      (h : Passes cs front ts rest) : Passes (b :: cs) (b :: front) ts rest
  | structural {t : Token} {cs front rest : List Char} {ts : List Token} (ht : t.raw? = none)
      (hcs : t.Bounded [] cs) (h : Passes cs front ts rest) :
      Passes (t.spelling ++ cs) (t.spelling ++ front) (t :: ts) rest
  | leaf {cs leaf stop front rest : List Char} {ts : List Token} (hcs : startsLeaf cs = true)
      (hleaf : leafTail ' ' cs = .ok (leaf, stop)) (h : Passes stop front ts rest) :
      Passes cs (leaf ++ front) (leafToken leaf ++ ts) rest

section BetweenTokens

variable {cs front rest rest' leaf stop e : List Char} {ts : List Token} {t : Token}

theorem Passes.text_eq (h : Passes cs front ts rest) : cs = front ++ rest := by
  induction h with
  | here => rfl
  | blank hb h ih => rw [ih, List.cons_append]
  | structural ht hcs h ih => rw [ih, List.append_assoc]
  | leaf hcs hleaf h ih => rw [leafTail_append hleaf, ih, List.append_assoc]

/-- A parenthesis or a keyword is a token of its own. -/
theorem scan_spelling_structural (ht : t.raw? = none) (hcs : t.Bounded [] cs) :
    scan (t.spelling ++ cs) = (scan cs).map (t :: ·) := by
  match t with
  | .opening => exact scan_opening cs
  | .closing => exact scan_closing cs
  | .operator op => exact scan_keyword (keyword?_eq_some_iff.mpr ⟨rfl, hcs.2⟩)

theorem leafText_of_startsLeaf {c : Char} (h : startsLeaf (c :: cs) = true) :
    leafText c cs = leafTail ' ' (c :: cs) :=
  leafText_eq_leafTail (not_stopsLeaf_of_startsLeaf h)

theorem scan_of_startsLeaf (hcs : startsLeaf cs = true)
    (hleaf : leafTail ' ' cs = .ok (leaf, stop)) :
    scan cs = (scan stop).map (leafToken leaf ++ ·) := by
  cases cs with
  | nil => cases hcs
  | cons c cs =>
    obtain ⟨hc, hk⟩ := startsLeaf_cons.mp hcs
    rw [← leafText_of_startsLeaf hcs] at hleaf
    exact scan_leaf hc hk hleaf

theorem scan_error_of_startsLeaf (hcs : startsLeaf cs = true) (hleaf : leafTail ' ' cs = .error e) :
    scan cs = .error e := by
  cases cs with
  | nil => cases hcs
  | cons c cs =>
    obtain ⟨hc, hk⟩ := startsLeaf_cons.mp hcs
    rw [← leafText_of_startsLeaf hcs] at hleaf
    rw [scan_of_not_bound hc, hk, hleaf]

/-- **The tokens in front are read by themselves.** -/
theorem Passes.scan_eq (h : Passes cs front ts rest) : scan cs = (scan rest).map (ts ++ ·) := by
  induction h with
  | here => exact (map_nil_append _).symm
  | blank hb h ih => rw [scan_blank hb, ih]
  | structural ht hcs h ih =>
    rw [scan_spelling_structural ht hcs, ih, map_map]
    rfl
  | leaf hcs hleaf h ih =>
    rw [scan_of_startsLeaf hcs hleaf, ih, map_map]
    simp only [List.append_assoc]

/-- In front of a leaf a keyword is bounded by something else. -/
theorem Token.Bounded.replace (h : t.Bounded [] (front ++ rest)) (hrest : startsLeaf rest = true)
    (rest' : List Char) : t.Bounded [] (front ++ rest') := by
  match t with
  | .opening | .closing | .leaf _ => trivial
  | .operator op =>
    refine ⟨rfl, ?_⟩
    have hbounded := h.2
    cases front with
    | cons c front => exact hbounded
    | nil =>
      cases rest with
      | nil => cases hrest
      | cons c rest =>
        have hc := (startsLeaf_cons.mp hrest).1
        have hc' : isBound c = true := hbounded
        rw [hc] at hc'
        cases hc'

/-- Where a leaf stops and another one follows later, a parenthesis or a keyword comes first. -/
theorem Passes.structural_of_stops (h : Passes cs front ts rest) (hstop : stopsLeaf true cs = true)
    (hrest : startsLeaf rest = true) :
    ∃ (t : Token) (us : List Char), t.raw? = none ∧ front = t.spelling ++ us ∧
      t.Bounded [] (us ++ rest) := by
  cases h with
  | here =>
    rw [not_stopsLeaf_of_startsLeaf hrest] at hstop
    cases hstop
  | blank hb h =>
    rw [stopsLeaf_of_isBlank hb] at hstop
    cases hstop
  | @structural t cs us _ ts ht hcs h =>
    rw [h.text_eq] at hcs
    exact ⟨t, us, ht, rfl, hcs⟩
  | leaf hcs hleaf h =>
    rw [not_stopsLeaf_of_startsLeaf hcs] at hstop
    cases hstop

/-- **What stands in front of a leaf is read in front of anything.** -/
theorem Passes.replace (h : Passes cs front ts rest) (hrest : startsLeaf rest = true)
    (rest' : List Char) : Passes (front ++ rest') front ts rest' := by
  induction h with
  | here => exact .here
  | blank hb h ih => exact .blank hb (ih hrest)
  | @structural t cs front rest ts ht hcs h ih =>
    rw [h.text_eq] at hcs
    rw [List.append_assoc]
    exact .structural ht (hcs.replace hrest rest') (ih hrest)
  | @leaf cs leaf stop front rest ts hcs hleaf h ih =>
    have hstop : stopsLeaf true stop = true := stopsLeaf_mono (leafTail_stops hleaf)
    obtain ⟨t, us, ht, hfront, hbounded⟩ := h.structural_of_stops hstop hrest
    obtain ⟨d, s, hspelling, hd⟩ := exists_spelling_cons_of_structural ht
    have htext := h.text_eq
    rw [hfront, List.append_assoc] at htext
    have hleaf' : leafTail ' ' (leaf ++ (front ++ rest')) = .ok (leaf, front ++ rest') := by
      rw [htext] at hleaf
      have hreplaced := leafTail_replace ht hleaf (hbounded.replace hrest rest')
      rwa [hfront, List.append_assoc]
    have hne : leaf ≠ [] := by
      rintro rfl
      have hcs' : cs = stop := leafTail_append hleaf
      rw [← hcs', not_stopsLeaf_of_startsLeaf hcs] at hstop
      cases hstop
    have hcs' : startsLeaf (leaf ++ (front ++ rest')) = true := by
      rw [leafTail_append hleaf, htext, hspelling] at hcs
      rw [hfront, hspelling, List.append_assoc]
      exact startsLeaf_seam hne hd hcs
    rw [List.append_assoc]
    exact .leaf hcs' hleaf' (ih hrest)

/-- **The scanner fails in a leaf.** -/
theorem exists_passes_of_error (h : scan cs = .error e) :
    ∃ front ts rest, Passes cs front ts rest ∧ startsLeaf rest = true ∧
      leafTail ' ' rest = .error e := by
  fun_induction scan cs with
  | case1 => cases h
  | case2 cs ih =>
    obtain ⟨front, ts, rest, hpasses, hrest, hleaf⟩ := ih (map_eq_error_iff.mp h)
    have hopening : Passes (Token.opening.spelling ++ cs) (Token.opening.spelling ++ front)
      (.opening :: ts) rest := .structural rfl trivial hpasses
    exact ⟨_, _, rest, hopening, hrest, hleaf⟩
  | case3 cs _ ih =>
    obtain ⟨front, ts, rest, hpasses, hrest, hleaf⟩ := ih (map_eq_error_iff.mp h)
    have hclosing : Passes (Token.closing.spelling ++ cs) (Token.closing.spelling ++ front)
      (.closing :: ts) rest := .structural rfl trivial hpasses
    exact ⟨_, _, rest, hclosing, hrest, hleaf⟩
  | case4 b cs _ _ hb ih =>
    obtain ⟨front, ts, rest, hpasses, hrest, hleaf⟩ := ih h
    exact ⟨_, ts, rest, .blank hb hpasses, hrest, hleaf⟩
  | case5 c cs _ _ _ op after hk ih =>
    obtain ⟨front, ts, rest, hpasses, hrest, hleaf⟩ := ih (map_eq_error_iff.mp h)
    obtain ⟨htext, hafter⟩ := keyword?_eq_some_iff.mp hk
    have hkeyword : Passes ((Token.operator op).spelling ++ after)
      ((Token.operator op).spelling ++ front) (.operator op :: ts) rest :=
      .structural rfl ⟨rfl, hafter⟩ hpasses
    rw [htext]
    exact ⟨_, _, rest, hkeyword, hrest, hleaf⟩
  | case6 c cs h₁ h₂ hb hk e' hl =>
    cases h
    have hcs : startsLeaf (c :: cs) = true := startsLeaf_of_ne h₁ h₂ hb hk
    rw [leafText_of_startsLeaf hcs] at hl
    exact ⟨[], [], c :: cs, .here, hcs, hl⟩
  | case7 c cs h₁ h₂ hb hk leaf stop hl ih =>
    obtain ⟨front, ts, rest, hpasses, hrest, hleaf⟩ := ih (map_eq_error_iff.mp h)
    have hcs : startsLeaf (c :: cs) = true := startsLeaf_of_ne h₁ h₂ hb hk
    rw [leafText_of_startsLeaf hcs] at hl
    exact ⟨_, _, rest, .leaf hcs hl hpasses, hrest, hleaf⟩

end BetweenTokens

/-! ## 4. Inside a leaf of a text -/

/-- **The scanner comes to `rest` inside a leaf.** It has read `front`, with the tokens `ts`, and
    `us` of the leaf behind it. In front of `rest` stands `b`, or the leaf begins there and `b` is
    a blank. -/
structure Reached (cs front : List Char) (ts : List Token) (us : List Char) (b : Char)
    (rest : List Char) : Prop where
  passes : Passes cs front ts (us ++ rest)
  starts : startsLeaf (us ++ rest) = true
  reads : LeafReads ' ' (us ++ rest) us b rest

section InsideText

variable {cs front us rest r r' more stop e : List Char} {ts : List Token} {b d : Char}

theorem Reached.text_eq (h : Reached cs front ts us b rest) : cs = front ++ (us ++ rest) :=
  h.passes.text_eq

/-- **Another text from here on**, with the same first character: the tokens in front are the same,
    and so is what the leaf has read. -/
theorem Reached.scan_replace (h : Reached cs front ts us b (d :: r)) (hd : isInner d = false)
    (hstart : startsLeaf (d :: r') = true) (hmore : leafTail b (d :: r') = .ok (more, stop)) :
    scan (front ++ (us ++ d :: r')) =
      (scan stop).map fun behind => ts ++ (leafToken (us ++ more) ++ behind) := by
  have hpasses := h.passes.replace h.starts (us ++ d :: r')
  have hstarts : startsLeaf (us ++ d :: r') = true := by
    by_cases hus : us = []
    · rw [hus]
      exact hstart
    · exact startsLeaf_seam hus hd h.starts
  have hleaf := (h.reads.replace_cons hd r').leafTail_of_ok hmore
  rw [hpasses.scan_eq, scan_of_startsLeaf hstarts hleaf, map_map]

/-- **What was read so far has tokens by itself**, if it ends with no letter of a keyword. -/
theorem Reached.scan_front (h : Reached cs front ts us b rest) (hne : rest ≠ [])
    (hb : ∀ op : Operator, b ∉ op.word.toList) :
    scan (front ++ us) = .ok (ts ++ leafToken us) := by
  have hus : scan us = .ok (leafToken us) := by
    cases us with
    | nil =>
      rw [scan]
      rfl
    | cons c us =>
      obtain ⟨hc, hk⟩ := startsLeaf_cons.mp h.starts
      have hk' : keyword? (c :: us) = none := keyword?_of_append hk fun op hop =>
        absurd hop (h.reads.ne_word (hb op) List.suffix_rfl (List.cons_ne_nil c us))
      have hstarts : startsLeaf (c :: us) = true := startsLeaf_cons.mpr ⟨hc, hk'⟩
      rw [scan_of_startsLeaf hstarts (h.reads.leafTail_front hne hb), scan, map_ok,
        List.append_nil]
  rw [(h.passes.replace h.starts us).scan_eq, hus, map_ok]

/-- **The scanner fails where a quotation without an end is opened.** -/
theorem exists_reached_of_error (h : scan cs = .error e) :
    ∃ front ts us b q r, Reached cs front ts us b (q :: r) ∧ e = q :: r ∧
      opensQuoteAfter b = true ∧ isQuote q = true ∧ closeQuote q r = none := by
  obtain ⟨front, ts, rest, hpasses, hstarts, hleaf⟩ := exists_passes_of_error h
  obtain ⟨us, b, q, r, hreads, he, hopens, hquote, hclose⟩ := leafReads_of_error hleaf
  have htext := hreads.text_eq
  rw [htext] at hpasses hstarts hreads
  exact ⟨front, ts, us, b, q, r, ⟨hpasses, hstarts, hreads⟩, he, hopens, hquote, hclose⟩

end InsideText

end PageWatch.Pattern
