import Mathlib.Data.List.TakeWhile
import PageWatch.Pattern.Token
import PageWatch.Proofs.Answer

/-!
# Scanning in context

A token is told from its neighbours only, so a text keeps its tokens when it stands in a longer
one. The boundary between the two needs care: a leaf at the end of the text takes the blanks that
follow, a keyword there becomes one only if a boundary follows, and a backslash there escapes the
next character.

* `stopsLeaf`: where a leaf stops, as a test of what stands behind it;
* `leafFrom`: **one step of a leaf**, an atom and the tail behind it. It is the step of `leafText`
  and of `leafTail`, so what holds of it is proved once;
* `scan_opening`, `scan_closing`, `scan_blank`, `scan_keyword`, `scan_leaf`: what `scan` does with
  each kind of token;
* `scan_append`: a text in front of blanks and a stop has the tokens it has by itself.

An open quotation is not covered: such a text has no tokens.
-/

namespace PageWatch.Text

theorem trimLeft_append_of_blank {cs v : List Char} (hv : ∀ c ∈ v, isBlank c = true) :
    trimLeft (cs ++ v) = if (trimLeft cs).isEmpty then [] else trimLeft cs ++ v := by
  have hnil : v.dropWhile isBlank = [] := List.dropWhile_eq_nil_iff.mpr hv
  rw [trimLeft, List.dropWhile_append, hnil]
  rfl

theorem trimRight_append_of_blank {cs v : List Char} (hv : ∀ c ∈ v, isBlank c = true) :
    trimRight (cs ++ v) = trimRight cs := by
  have hrev : ∀ c ∈ v.reverse, isBlank c = true := fun c hc => hv c (List.mem_reverse.mp hc)
  rw [trimRight, List.reverse_append, List.dropWhile_append_of_pos hrev]
  rfl

/-- Blanks behind a text do not count. -/
theorem trim_append_of_blank {cs v : List Char} (hv : ∀ c ∈ v, isBlank c = true) :
    trim (cs ++ v) = trim cs := by
  rw [trim, trimLeft_append_of_blank hv]
  split
  · next h => rw [trim, List.isEmpty_iff.mp h]
  · exact trimRight_append_of_blank hv

/-- A text with no blank at either end is left as it is. -/
theorem trim_eq_self {c d : Char} {cs : List Char} (hc : isBlank c = false)
    (hd : isBlank d = false) :
    trim (c :: (cs ++ [d])) = c :: (cs ++ [d]) := by
  have hleft : trimLeft (c :: (cs ++ [d])) = c :: (cs ++ [d]) := by
    rw [trimLeft, List.dropWhile_cons_of_neg (by simp [hc])]
  rw [trim, hleft, trimRight, ← List.cons_append, List.reverse_append, List.reverse_singleton,
    List.singleton_append, List.dropWhile_cons_of_neg (by simp [hd])]
  simp

end PageWatch.Text

namespace PageWatch.Pattern

open PageWatch.Text

/-! ## 1. Blanks and boundaries -/

theorem isBound_of_isBlank {c : Char} (h : isBlank c = true) : isBound c = true := by
  simp [isBound, h]

theorem ne_of_isBlank {c d : Char} (hc : isBlank c = true) (hd : isBlank d = false) : c ≠ d := by
  rintro rfl
  rw [hc] at hd
  cases hd

theorem not_isParen_of_isBlank {c : Char} (h : isBlank c = true) : isParen c = false := by
  have h₁ := ne_of_isBlank h (by decide : isBlank '(' = false)
  have h₂ := ne_of_isBlank h (by decide : isBlank ')' = false)
  simp [isParen, h₁, h₂]

theorem not_isQuote_of_isBlank {c : Char} (h : isBlank c = true) : isQuote c = false := by
  have h₁ := ne_of_isBlank h (by decide : isBlank '"' = false)
  have h₂ := ne_of_isBlank h (by decide : isBlank '\'' = false)
  simp [isQuote, h₁, h₂]

/-! ## 2. Keywords -/

/-- **A keyword is its word with a boundary behind it.** -/
theorem keyword?_eq_some_iff {cs rest : List Char} {op : Operator} :
    keyword? cs = some (op, rest) ↔ cs = op.word.toList ++ rest ∧ startsBounded rest = true := by
  have hand : Operator.and.word.toList = ['A', 'N', 'D'] := rfl
  have hor : Operator.or.word.toList = ['O', 'R'] := rfl
  constructor
  · intro h
    unfold keyword? at h
    split at h
    · split at h
      · next hb =>
        simp only [Option.some.injEq, Prod.mk.injEq] at h
        obtain ⟨rfl, rfl⟩ := h
        exact ⟨rfl, hb⟩
      · simp at h
    · split at h
      · next hb =>
        simp only [Option.some.injEq, Prod.mk.injEq] at h
        obtain ⟨rfl, rfl⟩ := h
        exact ⟨rfl, hb⟩
      · simp at h
    · simp at h
  · rintro ⟨rfl, hb⟩
    cases op with
    | and => simp [keyword?, hand, hb]
    | or => simp [keyword?, hor, hb]

theorem startsBounded_append {cs t : List Char} {b : Char} (hb : isBound b = true) :
    startsBounded (cs ++ b :: t) = startsBounded cs := by
  cases cs with
  | nil => simpa [startsBounded] using hb
  | cons c cs => rfl

/-- No character of a keyword is a boundary. -/
theorem isBound_of_mem_word {op : Operator} {c : Char} (h : c ∈ op.word.toList) :
    isBound c = false := by
  have hand : Operator.and.word.toList = ['A', 'N', 'D'] := rfl
  have hor : Operator.or.word.toList = ['O', 'R'] := rfl
  cases op with
  | and =>
    have hall : ∀ c ∈ ['A', 'N', 'D'], (!isBound c) = true := List.all_eq_true.mp rfl
    rw [hand] at h
    simpa using hall c h
  | or =>
    have hall : ∀ c ∈ ['O', 'R'], (!isBound c) = true := List.all_eq_true.mp rfl
    rw [hor] at h
    simpa using hall c h

/-- What stands behind a boundary has no influence on the keyword in front of it. -/
theorem keyword?_append {b : Char} (hb : isBound b = true) (cs t : List Char) :
    keyword? (cs ++ b :: t) = (keyword? cs).map fun (op, rest) => (op, rest ++ b :: t) := by
  cases h : keyword? cs with
  | some r =>
    obtain ⟨op, rest⟩ := r
    obtain ⟨rfl, hrest⟩ := keyword?_eq_some_iff.mp h
    rw [List.append_assoc]
    exact keyword?_eq_some_iff.mpr ⟨rfl, by rw [startsBounded_append hb, hrest]⟩
  | none =>
    cases h' : keyword? (cs ++ b :: t) with
    | none => rfl
    | some r =>
      obtain ⟨op, rest⟩ := r
      exfalso
      obtain ⟨heq, hrest⟩ := keyword?_eq_some_iff.mp h'
      obtain ⟨us, hcs, rfl⟩ : ∃ us, cs = op.word.toList ++ us ∧ rest = us ++ b :: t := by
        rcases List.append_eq_append_iff.mp heq with ⟨us, hw, ht⟩ | ⟨us, hcs, ht⟩
        · cases us with
          | nil => exact ⟨[], by simpa using hw.symm, by simpa using ht.symm⟩
          | cons u us =>
            obtain ⟨rfl, -⟩ := List.cons.inj ht
            have hmem : b ∈ op.word.toList := by simp [hw]
            rw [isBound_of_mem_word hmem] at hb
            cases hb
        · exact ⟨us, hcs, ht⟩
      rw [startsBounded_append hb] at hrest
      rw [keyword?_eq_some_iff.mpr ⟨hcs, hrest⟩] at h
      cases h

/-! ## 3. Atoms -/

/-- A backslash has been seen to before the other characters are. -/
theorem ne_backslash {c : Char} {rest : List Char} (h₁ : c = '\\' → rest = [] → False)
    (h₂ : ∀ d rest', c = '\\' → rest = d :: rest' → False) : c ≠ '\\' := by
  intro hc
  cases rest with
  | nil => exact h₁ hc rfl
  | cons d rest' => exact h₂ d rest' hc rfl

theorem closeQuote_cons {q c : Char} {rest : List Char} (hc : c ≠ '\\') :
    closeQuote q (c :: rest) =
      if c = q then some ([c], rest)
      else (closeQuote q rest).map fun (body, after) => (c :: body, after) := by
  rw [closeQuote]
  · rintro rfl
    exact absurd rfl hc
  · rintro d rest' rfl
    exact absurd rfl hc

/-- The end of a quotation does not depend on what follows it. -/
theorem closeQuote_append_right {q : Char} {cs body after : List Char} (t : List Char)
    (h : closeQuote q cs = some (body, after)) :
    closeQuote q (cs ++ t) = some (body, after ++ t) := by
  fun_induction closeQuote q cs generalizing body after with
  | case1 => simp at h
  | case2 => simp at h
  | case3 c rest ih =>
    simp only [Option.map_eq_some_iff, Prod.exists, Prod.mk.injEq] at h
    obtain ⟨b, a, hb, rfl, rfl⟩ := h
    simp [closeQuote, ih hb]
  | case4 rest h₁ h₂ =>
    have hq : q ≠ '\\' := ne_backslash h₁ h₂
    simp only [Option.some.injEq, Prod.mk.injEq] at h
    obtain ⟨rfl, rfl⟩ := h
    rw [List.cons_append, closeQuote_cons hq, if_pos rfl]
  | case5 c rest h₁ h₂ hc ih =>
    simp only [Option.map_eq_some_iff, Prod.exists, Prod.mk.injEq] at h
    obtain ⟨b, a, hb, rfl, rfl⟩ := h
    rw [List.cons_append, closeQuote_cons (ne_backslash h₁ h₂), if_neg hc, ih hb]
    rfl

/-- An atom does not depend on what follows it, unless it is a backslash at the very end. -/
theorem atom_append_right {opens : Bool} {c : Char} {rest a after : List Char} (t : List Char)
    (h : atom opens c rest = .ok (a, after)) (hc : c = '\\' → rest ≠ []) :
    atom opens c (rest ++ t) = .ok (a, after ++ t) := by
  unfold atom at h ⊢
  split at h
  · next hb =>
    rw [if_pos hb]
    split at h
    · exact absurd rfl (hc hb)
    · simp_all
  · next hb =>
    rw [if_neg hb]
    split at h
    · next hq =>
      rw [if_pos hq]
      split at h
      · cases h
      · next body after' hbody =>
        rw [closeQuote_append_right t hbody]
        simp_all
    · next hq =>
      rw [if_neg hq]
      simp_all

/-- A character that is neither a backslash nor opens a quotation is an atom of its own. -/
theorem atom_single (opens : Bool) {c : Char} (hc : c ≠ '\\') (hq : (opens && isQuote c) = false)
    (rest : List Char) : atom opens c rest = .ok ([c], rest) := by
  unfold atom
  rw [if_neg hc, hq]
  rfl

/-! ## 4. Leaves -/

/-- A leaf stops here: at the end, at a parenthesis, or at a keyword, if what stands in front
    bounds it. -/
def stopsLeaf (bounded : Bool) : List Char → Bool
  | [] => true
  | c :: rest => isParen c || (bounded && (keyword? (c :: rest)).isSome)

/-- A leaf from its character `c` on: an atom, and the tail behind it. -/
def leafFrom (opens : Bool) (c : Char) (rest : List Char) :
    Except (List Char) (List Char × List Char) :=
  match atom opens c rest with
  | .error e => .error e
  | .ok (a, after) =>
    (leafTail (a.getLast?.getD c) after).map fun (more, stop) => (a ++ more, stop)

theorem leafText_eq_leafFrom (c : Char) (rest : List Char) :
    leafText c rest = leafFrom true c rest := rfl

theorem leafFrom_of_atom {opens : Bool} {c : Char} {rest a after : List Char}
    (h : atom opens c rest = .ok (a, after)) :
    leafFrom opens c rest =
      (leafTail (a.getLast?.getD c) after).map fun (more, stop) => (a ++ more, stop) := by
  rw [leafFrom, h]

theorem leafTail_of_stops {before : Char} {cs : List Char}
    (h : stopsLeaf (isBound before) cs = true) : leafTail before cs = .ok ([], cs) := by
  cases cs with
  | nil => rw [leafTail]
  | cons c rest =>
    have h : (isParen c || isBound before && (keyword? (c :: rest)).isSome) = true := h
    rw [leafTail, if_pos h]

theorem leafTail_of_not_stops {before c : Char} {rest : List Char}
    (h : stopsLeaf (isBound before) (c :: rest) = false) :
    leafTail before (c :: rest) = leafFrom (opensQuoteAfter before) c rest := by
  have h : (isParen c || isBound before && (keyword? (c :: rest)).isSome) = false := h
  rw [leafTail, if_neg (Bool.eq_false_iff.mp h)]
  unfold leafFrom
  split
  · next e he => rw [he]
  · next a after ha => rw [ha]

/-- What stands behind a boundary does not change whether a leaf stops in front of it. -/
theorem stopsLeaf_append {bounded : Bool} {b c : Char} (hb : isBound b = true)
    (rest t : List Char) :
    stopsLeaf bounded (c :: rest ++ b :: t) = stopsLeaf bounded (c :: rest) := by
  have hk := keyword?_append hb (c :: rest) t
  rw [List.cons_append] at hk
  rw [List.cons_append, stopsLeaf, stopsLeaf, hk, Option.isSome_map]

theorem keyword?_of_bound {b : Char} (hb : isBound b = true) (t : List Char) :
    keyword? (b :: t) = none := keyword?_append hb [] t

theorem stopsLeaf_of_keyword {cs : List Char} {r : Operator × List Char}
    (h : keyword? cs = some r) : stopsLeaf true cs = true := by
  cases cs with
  | nil => rfl
  | cons c cs => simp [stopsLeaf, h]

/-- **Blanks in front of a stop** belong to the leaf. -/
theorem leafTail_blanks {before : Char} {v rest : List Char} (hv : ∀ c ∈ v, isBlank c = true)
    (hbefore : v = [] → isBound before = true) (hrest : stopsLeaf true rest = true) :
    leafTail before (v ++ rest) = .ok (v, rest) := by
  induction v generalizing before with
  | nil =>
    rw [List.nil_append]
    refine leafTail_of_stops ?_
    rw [hbefore rfl]
    exact hrest
  | cons b v ih =>
    obtain ⟨hb, hv⟩ := List.forall_mem_cons.mp hv
    have hbound : isBound b = true := isBound_of_isBlank hb
    have hparen : isParen b = false := not_isParen_of_isBlank hb
    have hstop : stopsLeaf (isBound before) (b :: (v ++ rest)) = false := by
      simp [stopsLeaf, hparen, keyword?_of_bound hbound]
    have hne : b ≠ '\\' := ne_of_isBlank hb (by decide)
    have hquote : (opensQuoteAfter before && isQuote b) = false := by
      simp [not_isQuote_of_isBlank hb]
    rw [List.cons_append, leafTail_of_not_stops hstop,
      leafFrom_of_atom (atom_single _ hne hquote (v ++ rest))]
    have ih := ih hv (fun _ => hbound)
    rw [List.getLast?_singleton, Option.getD_some, ih]
    rfl

section Context

variable {v rest : List Char}

/-- What a leaf and its stop become when the blanks `v` and a stop follow the text. A leaf that
    runs to the end of the text takes the blanks. -/
def inContext (v rest : List Char) : List Char × List Char → List Char × List Char
  | (leaf, []) => (leaf ++ v, rest)
  | (leaf, stop) => (leaf, stop ++ (v ++ rest))

theorem inContext_append (a : List Char) (r : List Char × List Char) :
    inContext v rest (a ++ r.1, r.2) = (a ++ (inContext v rest r).1, (inContext v rest r).2) := by
  obtain ⟨leaf, stop⟩ := r
  cases stop with
  | nil => simp [inContext]
  | cons c stop => rfl

/-- The step behind an atom: a backslash at the end of the text escapes the first of the blanks,
    any other atom stays as it is. -/
theorem leafFrom_append_blanks {opens : Bool} {c : Char} {cs : List Char}
    {r : List Char × List Char} (hne : v ≠ []) (hv : ∀ c ∈ v, isBlank c = true)
    (hrest : stopsLeaf true rest = true)
    (htail : ∀ a after, atom opens c cs = .ok (a, after) → ∀ r,
      leafTail (a.getLast?.getD c) after = .ok r →
        leafTail (a.getLast?.getD c) (after ++ (v ++ rest)) = .ok (inContext v rest r))
    (h : leafFrom opens c cs = .ok r) :
    leafFrom opens c (cs ++ (v ++ rest)) = .ok (inContext v rest r) := by
  by_cases hend : c = '\\' ∧ cs = []
  · obtain ⟨rfl, rfl⟩ := hend
    have hr : r = (['\\'], []) := by
      rw [leafFrom_of_atom (a := ['\\']) rfl, List.getLast?_singleton, Option.getD_some,
        leafTail] at h
      exact (Except.ok.inj h).symm
    obtain ⟨b, v', rfl⟩ := List.exists_cons_of_ne_nil hne
    obtain ⟨hb, hv'⟩ := List.forall_mem_cons.mp hv
    have hatom : atom opens '\\' (b :: (v' ++ rest)) = .ok (['\\', b], v' ++ rest) := rfl
    have hblanks := leafTail_blanks hv' (fun _ => isBound_of_isBlank hb) hrest
    have hlast : ['\\', b].getLast?.getD '\\' = b := rfl
    rw [List.nil_append, List.cons_append, leafFrom_of_atom hatom, hlast, hblanks, hr]
    rfl
  · cases ha : atom opens c cs with
    | error e =>
      rw [leafFrom, ha] at h
      cases h
    | ok p =>
      obtain ⟨a, after⟩ := p
      rw [leafFrom_of_atom ha] at h
      obtain ⟨r', hr', rfl⟩ := map_eq_ok_iff.mp h
      have hatom := atom_append_right (v ++ rest) ha fun hc hcs => hend ⟨hc, hcs⟩
      rw [leafFrom_of_atom hatom, htail a after ha r' hr', map_ok, inContext_append]

/-- **A leaf's tail in a longer text.** Where it stops before the end it stops there again. -/
theorem leafTail_append_blanks {before : Char} {cs : List Char} {r : List Char × List Char}
    (hne : v ≠ []) (hv : ∀ c ∈ v, isBlank c = true) (hrest : stopsLeaf true rest = true)
    (h : leafTail before cs = .ok r) :
    leafTail before (cs ++ (v ++ rest)) = .ok (inContext v rest r) := by
  have hstops : ∀ bounded c cs,
      stopsLeaf bounded (c :: cs ++ (v ++ rest)) = stopsLeaf bounded (c :: cs) := by
    obtain ⟨b, v', rfl⟩ := List.exists_cons_of_ne_nil hne
    exact fun bounded c cs =>
      stopsLeaf_append (isBound_of_isBlank (hv b List.mem_cons_self)) cs (v' ++ rest)
  fun_induction leafTail before cs generalizing r with
  | case1 before =>
    cases h
    exact leafTail_blanks hv (fun h => absurd h hne) hrest
  | case2 before c cs hstop =>
    cases h
    exact leafTail_of_stops ((hstops _ c cs).trans hstop)
  | case3 => cases h
  | case4 before c cs hstop a after ha ih =>
    have hstop := (hstops (isBound before) c cs).trans (Bool.eq_false_iff.mpr hstop)
    refine (leafTail_of_not_stops hstop).trans (leafFrom_append_blanks hne hv hrest ?_ ?_)
    · intro a' after' ha' r' hr'
      rw [ha] at ha'
      cases ha'
      exact ih hr'
    · rw [leafFrom_of_atom ha]
      exact h

theorem leafText_append_blanks {c : Char} {cs : List Char} {r : List Char × List Char}
    (hne : v ≠ []) (hv : ∀ c ∈ v, isBlank c = true) (hrest : stopsLeaf true rest = true)
    (h : leafText c cs = .ok r) : leafText c (cs ++ (v ++ rest)) = .ok (inContext v rest r) :=
  leafFrom_append_blanks hne hv hrest
    (fun _ _ _ _ hr => leafTail_append_blanks hne hv hrest hr) h

end Context

/-! ## 5. Texts -/

theorem leafToken_append {leaf v : List Char} (hv : ∀ c ∈ v, isBlank c = true) :
    leafToken (leaf ++ v) = leafToken leaf := by
  rw [leafToken, leafToken, trim_append_of_blank hv]

theorem scan_opening (rest : List Char) :
    scan ('(' :: rest) = (scan rest).map (.opening :: ·) := by
  rw [scan, if_pos rfl]

theorem scan_closing (rest : List Char) :
    scan (')' :: rest) = (scan rest).map (.closing :: ·) := by
  rw [scan, if_neg (by decide), if_pos rfl]

theorem scan_blank {b : Char} (hb : isBlank b = true) (rest : List Char) :
    scan (b :: rest) = scan rest := by
  have h₁ : b ≠ '(' := ne_of_isBlank hb (by decide)
  have h₂ : b ≠ ')' := ne_of_isBlank hb (by decide)
  rw [scan, if_neg h₁, if_neg h₂, if_pos hb]

theorem scan_blanks {v : List Char} (hv : ∀ c ∈ v, isBlank c = true) (rest : List Char) :
    scan (v ++ rest) = scan rest := by
  induction v with
  | nil => rfl
  | cons b v ih =>
    obtain ⟨hb, hv⟩ := List.forall_mem_cons.mp hv
    rw [List.cons_append, scan_blank hb, ih hv]

theorem not_isBound_iff {c : Char} :
    isBound c = false ↔ c ≠ '(' ∧ c ≠ ')' ∧ isBlank c = false := by
  simp [isBound, isParen, and_comm, and_assoc]

/-- What is no boundary begins a keyword or a leaf. -/
theorem scan_of_not_bound {c : Char} (hc : isBound c = false) (rest : List Char) :
    scan (c :: rest) =
      match keyword? (c :: rest) with
      | some (op, after) => (scan after).map (.operator op :: ·)
      | none =>
        match leafText c rest with
        | .error e => .error e
        | .ok (leaf, stop) => (scan stop).map (leafToken leaf ++ ·) := by
  obtain ⟨h₁, h₂, h₃⟩ := not_isBound_iff.mp hc
  rw [scan, if_neg h₁, if_neg h₂, if_neg (Bool.eq_false_iff.mp h₃)]
  split
  · next op after hk => rw [hk]
  · next hk =>
    rw [hk]
    dsimp only
    split
    · next e he => rw [he]
    · next leaf stop hl => rw [hl]

theorem scan_keyword {cs rest : List Char} {op : Operator} (h : keyword? cs = some (op, rest)) :
    scan cs = (scan rest).map (.operator op :: ·) := by
  cases cs with
  | nil => cases h
  | cons c cs =>
    have hc : isBound c = false := by
      refine Bool.eq_false_iff.mpr fun hb => ?_
      rw [keyword?_of_bound hb] at h
      cases h
    rw [scan_of_not_bound hc, h]

theorem scan_leaf {c : Char} {rest leaf stop : List Char} (hc : isBound c = false)
    (hk : keyword? (c :: rest) = none) (h : leafText c rest = .ok (leaf, stop)) :
    scan (c :: rest) = (scan stop).map (leafToken leaf ++ ·) := by
  rw [scan_of_not_bound hc, hk, h]

/-- **A text in front of blanks and a stop**: it has the tokens it has by itself, and what follows
    is read as if it stood alone. -/
theorem scan_append {a v rest : List Char} {ts : List Token} (h : scan a = .ok ts) (hne : v ≠ [])
    (hv : ∀ c ∈ v, isBlank c = true) (hrest : stopsLeaf true rest = true) :
    scan (a ++ (v ++ rest)) = (scan rest).map (ts ++ ·) := by
  have hkeyword : ∀ cs, keyword? (cs ++ (v ++ rest)) =
      (keyword? cs).map fun (op, after) => (op, after ++ (v ++ rest)) := by
    obtain ⟨b, v', rfl⟩ := List.exists_cons_of_ne_nil hne
    exact fun cs => keyword?_append (isBound_of_isBlank (hv b List.mem_cons_self)) cs (v' ++ rest)
  fun_induction scan a generalizing ts with
  | case1 =>
    cases h
    rw [List.nil_append, scan_blanks hv, map_nil_append]
  | case2 cs ih =>
    obtain ⟨ts, hts, rfl⟩ := map_eq_ok_iff.mp h
    rw [List.cons_append, scan_opening, ih hts, map_map]
    rfl
  | case3 cs _ ih =>
    obtain ⟨ts, hts, rfl⟩ := map_eq_ok_iff.mp h
    rw [List.cons_append, scan_closing, ih hts, map_map]
    rfl
  | case4 c cs _ _ hb ih => rw [List.cons_append, scan_blank hb, ih h]
  | case5 c cs _ _ _ op after hk ih =>
    obtain ⟨ts, hts, rfl⟩ := map_eq_ok_iff.mp h
    have hk' := hkeyword (c :: cs)
    rw [hk] at hk'
    rw [scan_keyword hk', ih hts, map_map]
    rfl
  | case6 => cases h
  | case7 c cs h₁ h₂ hb hk leaf stop hl ih =>
    obtain ⟨ts, hts, rfl⟩ := map_eq_ok_iff.mp h
    have hc : isBound c = false := not_isBound_iff.mpr ⟨h₁, h₂, Bool.eq_false_iff.mpr hb⟩
    have hk' : keyword? (c :: (cs ++ (v ++ rest))) = none := by
      rw [← List.cons_append, hkeyword, hk]
      rfl
    have hl' := leafText_append_blanks hne hv hrest hl
    cases stop with
    | nil =>
      have hts : ts = [] := by
        rw [scan] at hts
        exact (Except.ok.inj hts).symm
      rw [List.cons_append, scan_leaf hc hk' hl', leafToken_append hv, hts, List.append_nil]
    | cons s stop =>
      rw [List.cons_append, scan_leaf hc hk' hl', ih hts, map_map]
      simp only [List.append_assoc]

end PageWatch.Pattern
