import PageWatch.Proofs.Reached

/-!
# Escaped characters

Outside quotations a backslash takes the next character into its leaf, whatever that is: an escaped
parenthesis is no token, an escaped quote opens nothing. **What stands behind the pair still sees
the character itself.** It looks one character back, and does not know that this one was escaped:

* `boundsKeyword`: a blank or a parenthesis bounds a keyword that follows it;
* `opensQuotation`: behind a blank or a colon a quote opens a quotation;
* `endsLeaf`: a blank at the end of a leaf is trimmed off, and its backslash stays.

In all other places the escaped character might as well be a letter. Main statement:
`tokenize_escaped`; `escapes_not_opaque` has a text for each of the three.
-/

namespace PageWatch.Text

/-- Blanks at the end are taken off, and the rest is left as it is. -/
theorem trimRight_cons (c : Char) (cs : List Char) :
    trimRight (c :: cs) = if isBlank c && (trimRight cs).isEmpty then [] else c :: trimRight cs := by
  rw [trimRight, trimRight, List.reverse_cons, List.dropWhile_append]
  by_cases hcs : cs.reverse.dropWhile isBlank = []
  · cases hc : isBlank c <;> simp [hcs, hc]
  · simp [hcs]

theorem trimRight_append_cons {d : Char} (hd : isBlank d = false) (cs ds : List Char) :
    trimRight (cs ++ d :: ds) = cs ++ d :: trimRight ds := by
  induction cs with
  | nil => simp [trimRight_cons, hd]
  | cons c cs ih =>
    have hne : (cs ++ d :: trimRight ds).isEmpty = false := by simp
    rw [List.cons_append, trimRight_cons, ih, hne, Bool.and_false]
    rfl

theorem trimRight_eq_nil_iff {cs : List Char} : trimRight cs = [] ↔ ∀ c ∈ cs, isBlank c = true := by
  rw [trimRight, List.reverse_eq_nil_iff, List.dropWhile_eq_nil_iff]
  simp

end PageWatch.Text

namespace PageWatch.Pattern

open PageWatch.Text

/-! ## 1. What stands behind a character sees of it -/

/-- The character bounds a keyword that follows. -/
def boundsKeyword (c : Char) (vs : List Char) : Bool := isBound c && (keyword? vs).isSome

/-- Behind the character a quote follows and opens a quotation. -/
def opensQuotation (c : Char) (vs : List Char) : Bool := opensQuoteAfter c && vs.head?.any isQuote

/-- The character is one of the blanks at the end of a leaf. -/
def endsLeaf (c : Char) (vs : List Char) : Bool := isBlank c && stopsLeaf true (trimLeft vs)

section Behind

variable {b c d : Char} {vs rest more stop : List Char}

/-- For what is no quote it makes no difference whether quotes open quotations. -/
theorem atom_of_not_isQuote (hd : isQuote d = false) (opens opens' : Bool) :
    atom opens d rest = atom opens' d rest := by
  unfold atom
  rw [hd, Bool.and_false, Bool.and_false]

/-- **A leaf goes on behind one character as behind another**, if neither bounds a keyword there and
    neither makes a quote open a quotation. -/
theorem leafTail_congr (hc : boundsKeyword c vs = false) (hd : boundsKeyword d vs = false)
    (hc' : opensQuotation c vs = false) (hd' : opensQuotation d vs = false) :
    leafTail c vs = leafTail d vs := by
  cases vs with
  | nil => rw [leafTail, leafTail]
  | cons v vs =>
    have hstops : ∀ e, boundsKeyword e (v :: vs) = false →
        stopsLeaf (isBound e) (v :: vs) = isParen v := by
      intro e he
      have he : (isBound e && (keyword? (v :: vs)).isSome) = false := he
      rw [stopsLeaf, he, Bool.or_false]
    cases hv : isParen v with
    | true =>
      rw [leafTail_of_stops ((hstops c hc).trans hv), leafTail_of_stops ((hstops d hd).trans hv)]
    | false =>
      have hatom : atom (opensQuoteAfter c) v vs = atom (opensQuoteAfter d) v vs := by
        cases hq : isQuote v with
        | false => exact atom_of_not_isQuote hq _ _
        | true =>
          have hopens : ∀ e, opensQuotation e (v :: vs) = false → opensQuoteAfter e = false := by
            intro e he
            have he : (opensQuoteAfter e && isQuote v) = false := he
            rwa [hq, Bool.and_true] at he
          rw [hopens c hc', hopens d hd']
      rw [leafTail_of_not_stops ((hstops c hc).trans hv),
        leafTail_of_not_stops ((hstops d hd).trans hv), leafFrom, leafFrom, hatom]

theorem not_stopsLeaf_backslash (bounded : Bool) (rest : List Char) :
    stopsLeaf bounded ('\\' :: rest) = false := by
  simp [stopsLeaf, isParen, keyword?]

/-- **An escaped character belongs to the leaf**, whatever it is. -/
theorem leafTail_escape (b c : Char) (vs : List Char) :
    leafTail b ('\\' :: c :: vs) =
      (leafTail c vs).map fun (more, stop) => ('\\' :: c :: more, stop) := by
  have hatom : atom (opensQuoteAfter b) '\\' (c :: vs) = .ok (['\\', c], vs) := rfl
  rw [leafTail_of_not_stops (not_stopsLeaf_backslash _ _), leafFrom_of_atom hatom]
  rfl

/-- A leaf reads an escaped pair. -/
theorem LeafReads.pair {before : Char} {us : List Char} (h : LeafReads d vs us b rest) :
    LeafReads before ('\\' :: d :: vs) ('\\' :: d :: us) b rest :=
  .atom (a := ['\\', d]) (not_stopsLeaf_backslash _ _) rfl h

/-- A leaf reads a character that is neither a backslash nor a quote. -/
theorem LeafReads.plain {before : Char} {us : List Char} (hd : d ≠ '\\') (hq : isQuote d = false)
    (hgo : stopsLeaf (isBound before) (d :: vs) = false) (h : LeafReads d vs us b rest) :
    LeafReads before (d :: vs) (d :: us) b rest :=
  .atom (a := [d]) hgo (atom_single _ hd (by rw [hq, Bool.and_false]) vs) h

/-- A character and what a leaf reads behind it are blank if the character ends the leaf, and only
    then. -/
theorem forall_isBlank_iff_endsLeaf (h : leafTail c vs = .ok (more, stop)) :
    (∀ d ∈ c :: more, isBlank d = true) ↔ endsLeaf c vs = true := by
  rw [List.forall_mem_cons, endsLeaf, Bool.and_eq_true]
  refine and_congr_right fun hc => ⟨fun hmore => ?_, fun hstop => ?_⟩
  · have hstop := stopsLeaf_mono (leafTail_stops h)
    have htrim : trimLeft vs = stop := by
      rw [leafTail_append h, trimLeft, List.dropWhile_append_of_pos hmore]
      cases stop with
      | nil => rfl
      | cons d stop =>
        refine List.dropWhile_cons_of_neg fun hd => ?_
        rw [stopsLeaf_of_isBlank hd] at hstop
        cases hstop
    rw [htrim]
    exact hstop
  · have hblank : ∀ d ∈ vs.takeWhile isBlank, isBlank d = true :=
      fun d hd => List.mem_takeWhile_imp hd
    have hblanks := leafTail_blanks hblank (fun _ => isBound_of_isBlank hc) hstop
    have hvs : vs.takeWhile isBlank ++ trimLeft vs = vs := List.takeWhile_append_dropWhile
    rw [hvs, h] at hblanks
    cases hblanks
    exact hblank

/-- A leaf in which a backslash stands is trimmed behind it. -/
theorem leafToken_backslash {us : List Char} (hus : startsLeaf (us ++ '\\' :: rest) = true)
    (more : List Char) :
    leafToken (us ++ '\\' :: more) = [.leaf (String.ofList (us ++ '\\' :: trimRight more))] := by
  have hright : trimRight (us ++ '\\' :: more) = us ++ '\\' :: trimRight more :=
    trimRight_append_cons (by decide) us more
  have hleft : trimLeft (us ++ '\\' :: more) = us ++ '\\' :: more := by
    cases us with
    | nil => rfl
    | cons c us =>
      have hc : isBlank c = false := (not_isBound_iff.mp (startsLeaf_cons.mp hus).1).2.2
      exact List.dropWhile_cons_of_neg (by simp [hc])
  have htrim : trim (us ++ '\\' :: more) = us ++ '\\' :: trimRight more := by
    rw [trim, hleft, hright]
  have hne : (us ++ '\\' :: trimRight more).isEmpty = false := by simp
  rw [leafToken, htrim, hne]
  rfl

end Behind

/-! ## 2. Texts -/

section Escaped

variable {s : String} {ts before : List Token} {cs front us vs : List Char} {b c d : Char}

/-- The scanner at an escaped character, whichever it is. -/
theorem Reached.scan_escape (h : Reached cs front before us b ('\\' :: c :: vs)) (d : Char)
    {more stop : List Char} (hmore : leafTail d vs = .ok (more, stop)) :
    scan (front ++ (us ++ '\\' :: d :: vs)) =
      (scan stop).map fun behind =>
        before ++ .leaf (String.ofList (us ++ '\\' :: trimRight (d :: more))) :: behind := by
  have hescape : leafTail b ('\\' :: d :: vs) = .ok ('\\' :: d :: more, stop) := by
    rw [leafTail_escape, hmore]
    rfl
  have hstart : startsLeaf ('\\' :: d :: vs) = true := rfl
  rw [h.scan_replace rfl hstart hescape, leafToken_backslash h.starts]
  rfl

/-- What has tokens has a leaf at each of its escaped characters. -/
theorem Reached.exists_of_scan_ok (h : Reached cs front before us b ('\\' :: c :: vs))
    (hscan : scan cs = .ok ts) :
    ∃ more stop behind, leafTail c vs = .ok (more, stop) ∧ scan stop = .ok behind ∧
      ts = before ++ .leaf (String.ofList (us ++ '\\' :: trimRight (c :: more))) :: behind := by
  cases hmore : leafTail c vs with
  | error e =>
    -- The leaf would fail, and the whole text with it.
    have hfail : leafTail ' ' (us ++ '\\' :: c :: vs) = .error e := by
      rw [h.reads.leafTail_eq, leafTail_escape, hmore]
      rfl
    rw [h.passes.scan_eq, scan_error_of_startsLeaf h.starts hfail] at hscan
    cases hscan
  | ok p =>
    obtain ⟨more, stop⟩ := p
    rw [h.text_eq, h.scan_escape c hmore] at hscan
    obtain ⟨behind, hbehind, rfl⟩ := map_eq_ok_iff.mp hscan
    exact ⟨more, stop, behind, rfl, hbehind, rfl⟩

end Escaped

/-- **An escaped character is part of a leaf, and only what stands behind the pair sees what it is.**
    Where the scanner comes to a backslash that escapes `c`, the backslash is kept in the leaf, and
    so is `c`, unless it is one of the blanks at the leaf's end. If `c` is none of them, bounds no
    keyword and makes no quote open a quotation, then with an `x` for `c` the tokens are the same
    but for this one character. If `c` bounds a keyword, this keyword is the next token. -/
theorem tokenize_escaped {s : String} {ts before : List Token} {front us vs : List Char}
    {b c : Char} (h : tokenize s = .ok ts)
    (hescape : Reached s.toList front before us b ('\\' :: c :: vs)) :
    ∃ w behind, ts = before ++ .leaf (String.ofList (us ++ '\\' :: w)) :: behind ∧
      w <+: c :: vs ∧ (w = [] ↔ endsLeaf c vs = true) ∧
      (boundsKeyword c vs = true →
        ∃ op rest, keyword? vs = some (op, rest) ∧ behind.head? = some (.operator op)) ∧
      (endsLeaf c vs = false → boundsKeyword c vs = false → opensQuotation c vs = false →
        ∃ w', w = c :: w' ∧
          tokenize (String.ofList (front ++ (us ++ '\\' :: 'x' :: vs))) =
            .ok (before ++ .leaf (String.ofList (us ++ '\\' :: 'x' :: w')) :: behind)) := by
  obtain ⟨more, stop, behind, hmore, hbehind, rfl⟩ :=
    hescape.exists_of_scan_ok (tokenize_eq_ok_iff.mp h)
  have hnil : trimRight (c :: more) = [] ↔ endsLeaf c vs = true :=
    trimRight_eq_nil_iff.trans (forall_isBlank_iff_endsLeaf hmore)
  refine ⟨trimRight (c :: more), behind, rfl, ?_, hnil, ?_, ?_⟩
  · obtain ⟨v, -, hv⟩ := exists_eq_trimRight_append (c :: more)
    have hprefix : trimRight (c :: more) <+: c :: more := ⟨v, hv.symm⟩
    refine hprefix.trans ?_
    rw [leafTail_append hmore]
    exact List.prefix_append (c :: more) stop
  · intro hbounds
    obtain ⟨hc, hk⟩ := Bool.and_eq_true_iff.mp hbounds
    obtain ⟨⟨op, rest⟩, hop⟩ := Option.isSome_iff_exists.mp hk
    have hstop : stopsLeaf (isBound c) vs = true := by
      rw [hc]
      exact stopsLeaf_of_keyword hop
    rw [leafTail_of_stops hstop] at hmore
    cases hmore
    rw [scan_keyword hop] at hbehind
    obtain ⟨us', -, rfl⟩ := map_eq_ok_iff.mp hbehind
    exact ⟨op, rest, hop, rfl⟩
  · intro hends hbounds hopens
    have hkept : trimRight (c :: more) = c :: trimRight more := by
      rw [trimRight_cons]
      refine if_neg fun hblank => ?_
      rw [hnil.mp (by rw [trimRight_cons, if_pos hblank])] at hends
      cases hends
    have hx : leafTail 'x' vs = .ok (more, stop) := by
      rw [← hmore]
      exact leafTail_congr rfl hbounds rfl hopens
    refine ⟨trimRight more, hkept, tokenize_eq_ok_iff.mpr ?_⟩
    have hplain : trimRight ('x' :: more) = 'x' :: trimRight more :=
      trimRight_append_cons (by decide) [] more
    rw [String.toList_ofList, hescape.scan_escape 'x' hx, hbehind, map_ok, hplain]

/-- In `\(\d+\) AND b` the second escaped parenthesis stands two characters in front of the keyword,
    and could be an `x`. -/
theorem tokenize_escaped_closing :
    tokenize "\\(\\d+\\) AND b" = .ok [.leaf "\\(\\d+\\)", .operator .and, .leaf "b"] ∧
      ∃ w behind, [.leaf "\\(\\d+\\)", .operator .and, .leaf "b"] =
          .leaf (String.ofList ("\\(\\d+".toList ++ '\\' :: ')' :: w)) :: behind ∧
        tokenize "\\(\\d+\\x AND b" =
          .ok (.leaf (String.ofList ("\\(\\d+".toList ++ '\\' :: 'x' :: w)) :: behind) := by
  have h : tokenize "\\(\\d+\\) AND b" = .ok [.leaf "\\(\\d+\\)", .operator .and, .leaf "b"] :=
    tokenize_eq_ok_iff.mpr (by decide +kernel)
  have hescape : Reached "\\(\\d+\\) AND b".toList [] [] "\\(\\d+".toList '+'
      ('\\' :: ')' :: " AND b".toList) :=
    ⟨.here, rfl, .pair (.pair (.plain (by decide) rfl rfl .here))⟩
  obtain ⟨w, behind, hts, -, -, -, hx⟩ := tokenize_escaped h hescape
  obtain ⟨w', rfl, hplain⟩ := hx rfl rfl rfl
  exact ⟨h, w', behind, hts, hplain⟩

/-- With an `x` for any escaped character of the text its tokens are the same but for that
    character. -/
def EscapesOpaque (s : String) : Prop :=
  ∀ ts before front us b c vs, tokenize s = .ok ts →
    Reached s.toList front before us b ('\\' :: c :: vs) →
      ∃ w behind, ts = before ++ .leaf (String.ofList (us ++ '\\' :: c :: w)) :: behind ∧
        tokenize (String.ofList (front ++ (us ++ '\\' :: 'x' :: vs))) =
          .ok (before ++ .leaf (String.ofList (us ++ '\\' :: 'x' :: w)) :: behind)

/-- **Escaped characters are not opaque.** In `a\(AND b` the parenthesis bounds the keyword; in
    `a\:"(b"` the colon makes the quote open a quotation; in `a\ ` the blank is trimmed off. -/
theorem escapes_not_opaque :
    ¬ EscapesOpaque "a\\(AND b" ∧ ¬ EscapesOpaque "a\\:\"(b\"" ∧ ¬ EscapesOpaque "a\\ " := by
  refine ⟨fun h => ?_, fun h => ?_, fun h => ?_⟩
  · have hts : tokenize "a\\(AND b" = .ok [.leaf "a\\(", .operator .and, .leaf "b"] :=
      tokenize_eq_ok_iff.mpr (by decide +kernel)
    have hx : tokenize "a\\xAND b" = .ok [.leaf "a\\xAND b"] :=
      tokenize_eq_ok_iff.mpr (by decide +kernel)
    have hescape : Reached "a\\(AND b".toList [] [] ['a'] 'a' ('\\' :: '(' :: "AND b".toList) :=
      ⟨.here, rfl, .plain (by decide) rfl rfl .here⟩
    obtain ⟨w, behind, hts', hx'⟩ := h _ _ _ _ _ _ _ hts hescape
    have hbehind : [.operator .and, .leaf "b"] = behind := (List.cons.inj hts').2
    have hnil : [] = behind := (List.cons.inj (Except.ok.inj (hx.symm.trans hx'))).2
    rw [← hnil] at hbehind
    cases hbehind
  · have hts : tokenize "a\\:\"(b\"" = .ok [.leaf "a\\:\"(b\""] :=
      tokenize_eq_ok_iff.mpr (by decide +kernel)
    have hx : tokenize "a\\x\"(b\"" = .ok [.leaf "a\\x\"", .opening, .leaf "b\""] :=
      tokenize_eq_ok_iff.mpr (by decide +kernel)
    have hescape : Reached "a\\:\"(b\"".toList [] [] ['a'] 'a' ('\\' :: ':' :: "\"(b\"".toList) :=
      ⟨.here, rfl, .plain (by decide) rfl rfl .here⟩
    obtain ⟨w, behind, hts', hx'⟩ := h _ _ _ _ _ _ _ hts hescape
    have hnil : [] = behind := (List.cons.inj hts').2
    have hbehind : [.opening, .leaf "b\""] = behind :=
      (List.cons.inj (Except.ok.inj (hx.symm.trans hx'))).2
    rw [← hnil] at hbehind
    cases hbehind
  · have hts : tokenize "a\\ " = .ok [.leaf "a\\"] := tokenize_eq_ok_iff.mpr (by decide +kernel)
    have hescape : Reached "a\\ ".toList [] [] ['a'] 'a' ('\\' :: ' ' :: []) :=
      ⟨.here, rfl, .plain (by decide) rfl rfl .here⟩
    obtain ⟨w, behind, hts', -⟩ := h _ _ _ _ _ _ _ hts hescape
    have hleaf : "a\\" = String.ofList ('a' :: '\\' :: ' ' :: w) :=
      Token.leaf.inj (List.cons.inj hts').1
    have hchars : ['a', '\\'] = 'a' :: '\\' :: ' ' :: w := by
      rw [← String.toList_ofList (l := 'a' :: '\\' :: ' ' :: w), ← hleaf]
      rfl
    cases hchars

end PageWatch.Pattern
