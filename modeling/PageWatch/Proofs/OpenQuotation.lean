import PageWatch.Proofs.Quotation
import PageWatch.Proofs.Reached

/-!
# Quotations without an end

The scanner fails in one way only: a quotation is opened and never closed. What it then says can be
relied on.

* `scan_failed`: it fails at a quote `q`, inside a leaf, and **what stands in front has tokens by
  itself**;
* `endsInEscape`: which quotes are escaped. Behind the opening quote every `q` is, and if the text
  does not end in the middle of an escape, one more `q` closes the quotation;
* `tokenize_of_scan_error`: the place is told in bytes, as the size of what stands in front.

Main statements: `tokenize_open_quotation`, and `tokenize_joined`, by which a text behind a
parenthesis or a keyword is scanned as if it stood alone, its error included.
-/

namespace PageWatch.Text

theorem byteLength_append (cs ds : List Char) :
    byteLength (cs ++ ds) = byteLength cs + byteLength ds := by
  induction cs with
  | nil => rw [List.nil_append, byteLength, Nat.zero_add]
  | cons c cs ih => rw [List.cons_append, byteLength, byteLength, ih, Nat.add_assoc]

/-- The number of bytes is the size of the text. -/
theorem byteLength_eq_utf8ByteSize (cs : List Char) :
    byteLength cs = (String.ofList cs).utf8ByteSize := by
  induction cs with
  | nil => rfl
  | cons c cs ih =>
    rw [byteLength, ih, String.ofList_cons, String.utf8ByteSize_append,
      String.utf8ByteSize_singleton]

theorem exists_blank_cons {v : String} (hv : v ≠ "" ∧ isAllBlank v = true) :
    ∃ b cs, v.toList = b :: cs ∧ isBlank b = true ∧ ∀ c ∈ v.toList, isBlank c = true := by
  have hall : ∀ c ∈ v.toList, isBlank c = true := List.all_eq_true.mp hv.2
  have hne : v.toList ≠ [] := by
    intro hnil
    exact hv.1 (String.toList_eq_nil_iff.mp hnil)
  obtain ⟨b, cs, hcs⟩ := List.exists_cons_of_ne_nil hne
  have hb : isBlank b = true := hall b (by rw [hcs]; exact List.mem_cons_self)
  exact ⟨b, cs, hcs, hb, hall⟩

end PageWatch.Text

namespace PageWatch.Pattern

open PageWatch.Text

/-! ## 1. Escaped quotes -/

/-- The text ends in the middle of an escape. Read from the left, a backslash takes what follows
    it; the one at the end has nothing to take. -/
def endsInEscape : List Char → Bool
  | [] => false
  | ['\\'] => true
  | '\\' :: _ :: rest => endsInEscape rest
  | _ :: rest => endsInEscape rest

section Escape

variable {q : Char} {us vs rest : List Char}

/-- In a quotation that is not closed every quote is escaped. -/
theorem endsInEscape_of_open (hq : q ≠ '\\') (h : closeQuote q (us ++ q :: vs) = none) :
    endsInEscape us = true := by
  fun_induction endsInEscape us with
  | case1 =>
    rw [List.nil_append, closeQuote_cons hq, if_pos rfl] at h
    cases h
  | case2 => rfl
  | case3 d rest ih =>
    rw [List.cons_append, List.cons_append, closeQuote, Option.map_eq_none_iff] at h
    exact ih h
  | case4 c rest h₁ h₂ ih =>
    rw [List.cons_append, closeQuote_cons (ne_backslash h₁ h₂)] at h
    split at h
    · cases h
    · exact ih (Option.map_eq_none_iff.mp h)

/-- **One more quote closes an open quotation**, unless it would be escaped. -/
theorem closeQuote_append_quote (hq : q ≠ '\\') (h : closeQuote q rest = none)
    (hend : endsInEscape rest = false) : closeQuote q (rest ++ [q]) = some (rest ++ [q], []) := by
  fun_induction endsInEscape rest with
  | case1 => rw [List.nil_append, closeQuote_cons hq, if_pos rfl]
  | case2 => cases hend
  | case3 d rest ih =>
    rw [closeQuote, Option.map_eq_none_iff] at h
    rw [List.cons_append, List.cons_append, closeQuote, ih h hend]
    rfl
  | case4 c rest h₁ h₂ ih =>
    have hc : c ≠ '\\' := ne_backslash h₁ h₂
    rw [closeQuote_cons hc] at h
    split at h
    · cases h
    · next hne =>
      rw [List.cons_append, closeQuote_cons hc, if_neg hne, ih (Option.map_eq_none_iff.mp h) hend]
      rfl

end Escape

/-! ## 2. Where scanning fails -/

section Failed

variable {q b : Char} {cs r e : List Char}

theorem ne_backslash_of_isQuote (h : isQuote q = true) : q ≠ '\\' := by
  rintro rfl
  cases h

/-- A quote is neither a boundary nor a letter. -/
theorem not_isInner_of_isQuote (h : isQuote q = true) : isInner q = false := by
  rcases isQuote_cases h with rfl | rfl <;> rfl

theorem startsLeaf_of_isQuote (h : isQuote q = true) (r : List Char) :
    startsLeaf (q :: r) = true := by
  rcases isQuote_cases h with rfl | rfl <;> rfl

/-- What a quotation is opened behind is no letter of a keyword. -/
theorem notMem_word_of_opensQuoteAfter (h : opensQuoteAfter b = true) (op : Operator) :
    b ∉ op.word.toList := by
  intro hmem
  have hbound : isBound b = false := isBound_of_mem_word hmem
  rw [opensQuoteAfter, Bool.or_eq_true] at h
  rcases h with hblank | hcolon
  · rw [isBound_of_isBlank hblank] at hbound
    cases hbound
  · have hb : b = ':' := of_decide_eq_true hcolon
    subst hb
    cases op with
    | and => exact absurd hmem (by decide)
    | or => exact absurd hmem (by decide)

/-- Behind a quotation that takes the rest of the text a leaf ends. -/
theorem leafTail_of_closeQuote (hopens : opensQuoteAfter b = true) (hquote : isQuote q = true)
    (hclose : closeQuote q r = some (r, [])) : leafTail b (q :: r) = .ok (q :: r, []) := by
  have hgo : stopsLeaf (isBound b) (q :: r) = false := by
    rcases isQuote_cases hquote with rfl | rfl <;> simp [stopsLeaf, isParen, keyword?]
  have hatom : atom (opensQuoteAfter b) q r = .ok (q :: r, []) := by
    unfold atom
    rw [if_neg (ne_backslash_of_isQuote hquote), hopens, hquote, hclose]
    rfl
  rw [leafTail_of_not_stops hgo, leafFrom_of_atom hatom, leafTail]
  show Except.ok (q :: r ++ [], []) = _
  rw [List.append_nil]

/-- **Scanning fails at a quote**, where it opens a quotation. What stands in front has tokens by
    itself; behind the quote all of its kind are escaped; and one more of them at the end mends the
    text, unless it would be escaped too. -/
theorem scan_failed (h : scan cs = .error e) :
    ∃ p q r, cs = p ++ q :: r ∧ e = q :: r ∧ isQuote q = true ∧ (∃ ts, scan p = .ok ts) ∧
      (∀ us vs, r = us ++ q :: vs → endsInEscape us = true) ∧
      (endsInEscape r = false → ∃ ts, scan (cs ++ [q]) = .ok ts) := by
  obtain ⟨front, ts, us, b, q, r, hreached, rfl, hopens, hquote, hclose⟩ :=
    exists_reached_of_error h
  have hq : q ≠ '\\' := ne_backslash_of_isQuote hquote
  have htext : cs = front ++ us ++ q :: r := by rw [hreached.text_eq, List.append_assoc]
  have hfront := hreached.scan_front (List.cons_ne_nil q r)
    (notMem_word_of_opensQuoteAfter hopens)
  refine ⟨front ++ us, q, r, htext, rfl, hquote, ⟨_, hfront⟩, ?_, ?_⟩
  · intro xs ys hr
    rw [hr] at hclose
    exact endsInEscape_of_open hq hclose
  · intro hend
    have hmore := leafTail_of_closeQuote hopens hquote (closeQuote_append_quote hq hclose hend)
    have hscan := hreached.scan_replace (not_isInner_of_isQuote hquote)
      (startsLeaf_of_isQuote hquote _) hmore
    have htext' : cs ++ [q] = front ++ (us ++ q :: (r ++ [q])) := by
      rw [htext]
      simp
    rw [htext', hscan, scan, map_ok]
    exact ⟨_, rfl⟩

end Failed

/-! ## 3. What is told -/

section Told

variable {s : String} {q : Char} {p r : List Char}

/-- The place of an open quotation is the size of what stands in front of it. -/
theorem tokenize_of_scan_error (htext : s.toList = p ++ q :: r)
    (h : scan s.toList = .error (q :: r)) :
    tokenize s = .error
      { pattern := s, quote := q, start := (String.ofList p).utf8ByteSize } := by
  have hstart : byteLength s.toList - byteLength (q :: r) = (String.ofList p).utf8ByteSize := by
    rw [htext, byteLength_append, ← byteLength_eq_utf8ByteSize]
    omega
  rw [tokenize, h, ← hstart]
  rfl

theorem exists_of_tokenize_error {e : UnterminatedQuote} (h : tokenize s = .error e) :
    ∃ cs, scan s.toList = .error cs := by
  unfold tokenize at h
  split at h
  · cases h
  · next cs hcs => exact ⟨cs, hcs⟩

theorem exists_of_scan_ok {ts : List Token} (h : scan p = .ok ts) :
    ∃ ts, tokenize (String.ofList p) = .ok ts := by
  refine ⟨ts, tokenize_eq_ok_iff.mpr ?_⟩
  rw [String.toList_ofList]
  exact h

end Told

/-- **What is told of an open quotation is exact, and the text can be mended.** The text that is
    told is the one that was given; the place is the size in bytes of what stands in front of a
    quote, and that part has tokens by itself; behind that quote all of its kind are escaped. If
    the text does not end in the middle of an escape, one more quote at its end closes the
    quotation. -/
theorem tokenize_open_quotation {s : String} {e : UnterminatedQuote} (h : tokenize s = .error e) :
    e.pattern = s ∧ (e.quote = '"' ∨ e.quote = '\'') ∧
      ∃ p r : String, s = p ++ String.singleton e.quote ++ r ∧ e.start = p.utf8ByteSize ∧
        (∃ ts, tokenize p = .ok ts) ∧
        (∀ us vs, r.toList = us ++ e.quote :: vs → endsInEscape us = true) ∧
        (endsInEscape r.toList = false →
          ∃ ts, tokenize (s ++ String.singleton e.quote) = .ok ts) := by
  obtain ⟨cs, hcs⟩ := exists_of_tokenize_error h
  obtain ⟨p, q, r, htext, rfl, hquote, ⟨ts, hp⟩, hescaped, hmend⟩ := scan_failed hcs
  rw [tokenize_of_scan_error htext hcs] at h
  cases h
  have hs : s = String.ofList p ++ String.singleton q ++ String.ofList r := by
    rw [String.append_assoc, ← String.ofList_cons, ← String.ofList_append, ← htext,
      String.ofList_toList]
  refine ⟨rfl, isQuote_cases hquote, String.ofList p, String.ofList r, hs, rfl,
    exists_of_scan_ok hp, ?_, ?_⟩
  · intro us vs hr
    rw [String.toList_ofList] at hr
    exact hescaped us vs hr
  · intro hend
    rw [String.toList_ofList] at hend
    obtain ⟨ts', hts'⟩ := hmend hend
    refine ⟨ts', tokenize_eq_ok_iff.mpr ?_⟩
    rw [String.toList_append, String.toList_singleton]
    exact hts'

/-- In `é OR x:"a\"b` a quotation is opened behind eight bytes; the quote behind the backslash does
    not close it. -/
theorem tokenize_open_quotation_colon :
    tokenize "é OR x:\"a\\\"b" =
        .error { pattern := "é OR x:\"a\\\"b", quote := '"', start := 8 } ∧
      ∃ p r : String, "é OR x:\"a\\\"b" = p ++ String.singleton '"' ++ r ∧ 8 = p.utf8ByteSize ∧
        (∃ ts, tokenize p = .ok ts) ∧
        ∀ us vs, r.toList = us ++ '"' :: vs → endsInEscape us = true := by
  have hscan : scan "é OR x:\"a\\\"b".toList = .error "\"a\\\"b".toList := by decide +kernel
  have htext : "é OR x:\"a\\\"b".toList = "é OR x:".toList ++ '"' :: "a\\\"b".toList := by decide
  have hsize : (String.ofList "é OR x:".toList).utf8ByteSize = 8 := by decide
  have h := tokenize_of_scan_error htext hscan
  rw [hsize] at h
  obtain ⟨-, -, p, r, hs, hstart, hp, hescaped, -⟩ := tokenize_open_quotation h
  exact ⟨h, p, r, hs, hstart, hp, hescaped⟩

/-! ## 4. Behind a parenthesis or a keyword -/

section Joined

variable {a b v w : String} {u : Token} {ts us : List Token}

/-- **A parenthesis or a keyword between blanks parts a text in two**: the tokens in front are read
    by themselves, and so is what stands behind, whether it can be scanned or not. -/
theorem scan_joined (hu : u.raw? = none) (hv : v ≠ "" ∧ isAllBlank v = true)
    (hw : w ≠ "" ∧ isAllBlank w = true) (ha : tokenize a = .ok ts) :
    scan (a ++ v ++ String.ofList u.spelling ++ w ++ b).toList =
      (scan b.toList).map fun us => ts ++ u :: us := by
  obtain ⟨c, cs, hcs, hc, hvblank⟩ := exists_blank_cons hv
  obtain ⟨d, ds, hds, hd, hwblank⟩ := exists_blank_cons hw
  have hvne : v.toList ≠ [] := by rw [hcs]; exact List.cons_ne_nil c cs
  have hbounded : u.Bounded [] (w.toList ++ b.toList) := by
    match u with
    | .operator op =>
      refine ⟨rfl, ?_⟩
      rw [hds]
      exact isBound_of_isBlank hd
    | .opening | .closing => trivial
  have hstop : stopsLeaf true (u.spelling ++ (w.toList ++ b.toList)) = true :=
    stopsLeaf_spelling hu hbounded
  have htext : (a ++ v ++ String.ofList u.spelling ++ w ++ b).toList =
      a.toList ++ (v.toList ++ (u.spelling ++ (w.toList ++ b.toList))) := by
    simp
  rw [htext, scan_append (tokenize_eq_ok_iff.mp ha) hvne hvblank hstop,
    scan_spelling_structural hu hbounded, scan_blanks hwblank, map_map]

/-- **Scanning is local to the sides of a parenthesis or a keyword.** With blanks around it, the
    tokens are those of both sides with it between them; and if a quotation is open behind it, that
    is told as it would be of this side alone, with its place moved by the size of what stands in
    front. -/
theorem tokenize_joined (hu : u.raw? = none) (hv : v ≠ "" ∧ isAllBlank v = true)
    (hw : w ≠ "" ∧ isAllBlank w = true) (ha : tokenize a = .ok ts) :
    (∀ us, tokenize b = .ok us →
      tokenize (a ++ v ++ String.ofList u.spelling ++ w ++ b) = .ok (ts ++ [u] ++ us)) ∧
    ∀ e, tokenize b = .error e →
      tokenize (a ++ v ++ String.ofList u.spelling ++ w ++ b) =
        .error
          { pattern := a ++ v ++ String.ofList u.spelling ++ w ++ b
            quote := e.quote
            start := e.start + (a ++ v ++ String.ofList u.spelling ++ w).utf8ByteSize } := by
  have hjoined := scan_joined (b := b) hu hv hw ha
  constructor
  · intro us hb
    refine tokenize_eq_ok_iff.mpr ?_
    rw [hjoined, tokenize_eq_ok_iff.mp hb, map_ok, List.append_assoc]
    rfl
  · intro e hb
    obtain ⟨cs, hcs⟩ := exists_of_tokenize_error hb
    obtain ⟨p, q, r, htext, rfl, -⟩ := scan_failed hcs
    rw [hcs, map_error] at hjoined
    have htext' : (a ++ v ++ String.ofList u.spelling ++ w ++ b).toList =
        (a ++ v ++ String.ofList u.spelling ++ w ++ String.ofList p).toList ++ q :: r := by
      rw [String.toList_append, htext]
      simp
    rw [tokenize_of_scan_error htext hcs] at hb
    cases hb
    rw [tokenize_of_scan_error htext' hjoined, String.ofList_toList, String.utf8ByteSize_append,
      Nat.add_comm]

/-- The text in front ends in a backslash, which escapes the first blank behind it. The quotation
    behind `OR` is opened two bytes further on than the eight in front of `x`. -/
theorem tokenize_joined_open :
    tokenize "é\\" = .ok [.leaf "é\\"] ∧
      tokenize "é\\ OR  b" = .ok [.leaf "é\\", .operator .or, .leaf "b"] ∧
      tokenize "x \"y" = .error { pattern := "x \"y", quote := '"', start := 2 } ∧
      tokenize "é\\ OR  x \"y" =
        .error { pattern := "é\\ OR  x \"y", quote := '"', start := 10 } := by
  have ha : tokenize "é\\" = .ok [.leaf "é\\"] :=
    tokenize_eq_ok_iff.mpr (by decide +kernel)
  have hscan : scan "x \"y".toList = .error "\"y".toList := by decide +kernel
  have htext : "x \"y".toList = "x ".toList ++ '"' :: "y".toList := by decide
  have hopen := tokenize_of_scan_error htext hscan
  have hb : tokenize "b" = .ok [.leaf "b"] := tokenize_eq_ok_iff.mpr (by decide +kernel)
  have hjoined := tokenize_joined (u := .operator .or) (v := " ") (w := "  ") rfl
    (by decide) (by decide) ha (b := "b")
  have hjoined_open := tokenize_joined (u := .operator .or) (v := " ") (w := "  ") rfl
    (by decide) (by decide) ha (b := "x \"y")
  exact ⟨ha, hjoined.1 _ hb, hopen, hjoined_open.2 _ hopen⟩

end Joined

end PageWatch.Pattern
