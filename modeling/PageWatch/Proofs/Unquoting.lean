import PageWatch.Proofs.OpenQuotation

/-!
# Taking the quotes off

Two functions know what a quotation is. The scanner goes forward behind the opening quote, to the
first one of its kind that is not escaped (`closeQuote`). `unquoted?` takes a quote off both ends
and looks at the inside afterwards. An escaped quote at the end, a doubled backslash in front of it
and a lone quote inside are where the two could come apart.

* `Decodes`: **what the inside of a quotation stands for**, as a relation that knows no quotes;
* `decodeBody_isSome_iff`: the inside can be decoded if and only if the scanner closes the
  quotation at the quote behind it;
* `tokenize_of_closed`: a text that the scanner closes at its end is one token.

Main statement: `unquoted?_iff_closed`.
-/

namespace PageWatch.Pattern

open PageWatch.Text

/-! ## 1. Decoding -/

/-- **The inside of a quotation stands for a text.** A backslash and the character behind it are
    read as one, from the left: a line end for `n`, a tab for `t`, and any other character for
    itself. -/
inductive Decodes : List Char → List Char → Prop
  | nil : Decodes [] []
  | lineEnd {body v : List Char} (h : Decodes body v) : Decodes ('\\' :: 'n' :: body) ('\n' :: v)
  | tab {body v : List Char} (h : Decodes body v) : Decodes ('\\' :: 't' :: body) ('\t' :: v)
  | escaped {c : Char} {body v : List Char} (hn : c ≠ 'n') (ht : c ≠ 't') (h : Decodes body v) :
      Decodes ('\\' :: c :: body) (c :: v)
  | plain {c : Char} {body v : List Char} (hc : c ≠ '\\') (h : Decodes body v) :
      Decodes (c :: body) (c :: v)

section Decode

variable {q c : Char} {body rest v w : List Char}

theorem Decodes.unescape (h : Decodes body v) :
    Decodes ('\\' :: c :: body) (Pattern.unescape c :: v) := by
  unfold Pattern.unescape
  split
  · next hn =>
    subst hn
    exact h.lineEnd
  · next hn =>
    split
    · next ht =>
      subst ht
      exact h.tab
    · next ht => exact h.escaped hn ht

/-- The inside stands for one text only. -/
theorem Decodes.unique (h : Decodes body v) (h' : Decodes body w) : v = w := by
  induction h generalizing w with
  | nil =>
    cases h'
    rfl
  | lineEnd _ ih =>
    cases h' with
    | lineEnd h' => rw [ih h']
    | escaped hn _ _ => exact absurd rfl hn
    | plain hc _ => exact absurd rfl hc
  | tab _ ih =>
    cases h' with
    | tab h' => rw [ih h']
    | escaped _ ht _ => exact absurd rfl ht
    | plain hc _ => exact absurd rfl hc
  | escaped hn ht _ ih =>
    cases h' with
    | lineEnd _ => exact absurd rfl hn
    | tab _ => exact absurd rfl ht
    | escaped _ _ h' => rw [ih h']
    | plain hc _ => exact absurd rfl hc
  | plain hc _ ih =>
    cases h' with
    | plain _ h' => rw [ih h']
    | lineEnd _ | tab _ | escaped _ _ _ => exact absurd rfl hc

theorem decodes_of_decodeBody (h : decodeBody q body = some v) : Decodes body v := by
  fun_induction decodeBody q body generalizing v with
  | case1 =>
    cases h
    exact .nil
  | case2 => cases h
  | case3 c rest ih =>
    obtain ⟨w, hw, rfl⟩ := Option.map_eq_some_iff.mp h
    exact (ih hw).unescape
  | case4 => cases h
  | case5 c rest h₁ h₂ _ ih =>
    obtain ⟨w, hw, rfl⟩ := Option.map_eq_some_iff.mp h
    exact (ih hw).plain (ne_backslash h₁ h₂)

/-! ## 2. Where a quotation ends -/

theorem map_prepend_eq_self_iff {x : Option (List Char × List Char)} (us : List Char) :
    (x.map fun (body, after) => (us ++ body, after)) = some (us ++ rest, []) ↔
      x = some (rest, []) := by
  rw [Option.map_eq_some_iff]
  constructor
  · rintro ⟨⟨vs, after⟩, h, heq⟩
    obtain ⟨hvs, rfl⟩ := Prod.mk.inj heq
    rw [h, List.append_cancel_left hvs]
  · intro h
    exact ⟨_, h, rfl⟩

theorem closeQuote_escaped_eq_self_iff :
    closeQuote q ('\\' :: c :: rest) = some ('\\' :: c :: rest, []) ↔
      closeQuote q rest = some (rest, []) := by
  rw [closeQuote]
  exact map_prepend_eq_self_iff ['\\', c]

theorem closeQuote_plain_eq_self_iff (hc : c ≠ '\\') (hq : c ≠ q) :
    closeQuote q (c :: rest) = some (c :: rest, []) ↔ closeQuote q rest = some (rest, []) := by
  rw [closeQuote_cons hc, if_neg hq]
  exact map_prepend_eq_self_iff [c]

/-- **The inside can be decoded if and only if the quotation is closed at the quote behind it.** -/
theorem decodeBody_isSome_iff (hq : q ≠ '\\') :
    (decodeBody q body).isSome = true ↔
      closeQuote q (body ++ [q]) = some (body ++ [q], []) := by
  fun_induction decodeBody q body with
  | case1 => simp [closeQuote_cons hq]
  | case2 =>
    -- The backslash takes the closing quote.
    simp [closeQuote]
  | case3 c rest ih =>
    rw [Option.isSome_map, ih, List.cons_append, List.cons_append,
      closeQuote_escaped_eq_self_iff]
  | case4 rest =>
    -- A lone quote closes the quotation too early.
    simp [closeQuote_cons hq]
  | case5 c rest h₁ h₂ hne ih =>
    rw [Option.isSome_map, ih, List.cons_append,
      closeQuote_plain_eq_self_iff (ne_backslash h₁ h₂) hne]

/-- What is decoded is what stands between two quotes at the ends. -/
theorem unquotedChars?_cons (hq : isQuote q = true) :
    unquotedChars? (q :: rest) = some v ↔
      ∃ body, rest = body ++ [q] ∧ decodeBody q body = some v := by
  rw [unquotedChars?, hq, Bool.true_and]
  constructor
  · intro h
    split at h
    · next hlast =>
      have hend : rest.getLast? = some q := of_decide_eq_true hlast
      exact ⟨rest.dropLast, (List.dropLast_append_getLast? q hend).symm, h⟩
    · cases h
  · rintro ⟨body, rfl, h⟩
    simpa using h

/-- **The two agree**, and what is given is what the inside stands for. -/
theorem unquotedChars?_eq_some_iff (hq : isQuote q = true) :
    unquotedChars? (q :: rest) = some v ↔
      closeQuote q rest = some (rest, []) ∧ ∃ body, rest = body ++ [q] ∧ Decodes body v := by
  have hne : q ≠ '\\' := ne_backslash_of_isQuote hq
  rw [unquotedChars?_cons hq]
  constructor
  · rintro ⟨body, rfl, h⟩
    have hsome : (decodeBody q body).isSome = true := by rw [h]; rfl
    exact ⟨(decodeBody_isSome_iff hne).mp hsome, body, rfl, decodes_of_decodeBody h⟩
  · rintro ⟨hclose, body, rfl, hv⟩
    obtain ⟨w, hw⟩ := Option.isSome_iff_exists.mp ((decodeBody_isSome_iff hne).mpr hclose)
    have hvw : v = w := hv.unique (decodes_of_decodeBody hw)
    exact ⟨body, rfl, by rw [hw, hvw]⟩

theorem unquotedChars?_isSome_iff (hq : isQuote q = true) :
    (unquotedChars? (q :: rest)).isSome = true ↔ closeQuote q rest = some (rest, []) := by
  rw [Option.isSome_iff_exists]
  constructor
  · rintro ⟨v, hv⟩
    exact ((unquotedChars?_eq_some_iff hq).mp hv).1
  · intro hclose
    -- What is closed ends with its quote, so that there is an inside.
    have hend : rest.getLast? = some q := getLast?_of_closeQuote hclose
    have hrest : rest = rest.dropLast ++ [q] := (List.dropLast_append_getLast? q hend).symm
    rw [hrest] at hclose
    have hsome := (decodeBody_isSome_iff (ne_backslash_of_isQuote hq)).mpr hclose
    obtain ⟨v, hv⟩ := Option.isSome_iff_exists.mp hsome
    exact ⟨v, (unquotedChars?_cons hq).mpr ⟨rest.dropLast, hrest, hv⟩⟩

end Decode

/-! ## 3. Texts -/

section Texts

variable {q : Char} {rest : List Char}

/-- **A quotation that is closed at the end of the text is one token**, spelled as it stands. -/
theorem tokenize_of_closed (hq : isQuote q = true) (hclose : closeQuote q rest = some (rest, [])) :
    tokenize (String.ofList (q :: rest)) = .ok [.leaf (String.ofList (q :: rest))] := by
  have hblank : isBlank q = false := by
    rcases isQuote_cases hq with rfl | rfl <;> decide
  have hend : rest.getLast? = some q := getLast?_of_closeQuote hclose
  have htrim : trim (q :: rest) = q :: rest := by
    rw [← List.dropLast_append_getLast? q hend]
    exact trim_eq_self hblank hblank
  have hscan : scan (q :: rest) = (scan []).map (leafToken (q :: rest) ++ ·) :=
    scan_of_startsLeaf (startsLeaf_of_isQuote hq rest)
      (leafTail_of_closeQuote (b := ' ') rfl hq hclose)
  refine tokenize_eq_ok_iff.mpr ?_
  rw [String.toList_ofList, hscan, scan, map_ok, leafToken, htrim]
  rfl

/-- **Unquoting and scanning agree on what a quotation is, and unquoting undoes quoting.** A text
    that begins with a quote can be unquoted if and only if the scanner, started behind this quote,
    closes the quotation at the end of the text. It is then the quote, an inside and the quote
    again, and it stands for what the inside stands for. Every text between quotes of either kind,
    with its backslashes and these quotes escaped, stands for itself and is one token. -/
theorem unquoted?_iff_closed :
    (∀ (t : String) (q : Char) (rest : List Char), t.toList = q :: rest → isQuote q = true →
      ((unquoted? t).isSome = true ↔ closeQuote q rest = some (rest, [])) ∧
        ∀ value : String, unquoted? t = some value ↔
          closeQuote q rest = some (rest, []) ∧
            ∃ body, rest = body ++ [q] ∧ Decodes body value.toList) ∧
      ∀ (p : String) (q : Char), isQuote q = true →
        unquoted? (String.ofList (quotation q p.toList)) = some p ∧
          tokenize (String.ofList (quotation q p.toList)) =
            .ok [.leaf (String.ofList (quotation q p.toList))] := by
  constructor
  · intro t q rest ht hq
    constructor
    · rw [unquoted?, ht, Option.isSome_map]
      exact unquotedChars?_isSome_iff hq
    · intro value
      rw [← unquotedChars?_eq_some_iff hq, unquoted?, ht, Option.map_eq_some_iff]
      constructor
      · rintro ⟨v, hv, rfl⟩
        rw [String.toList_ofList]
        exact hv
      · intro h
        exact ⟨value.toList, h, String.ofList_toList⟩
  · intro p q hq
    constructor
    · rw [unquoted?, String.toList_ofList, unquotedChars?_quotation hq, Option.map_some,
        String.ofList_toList]
    · exact tokenize_of_closed hq (closeQuote_quoted (ne_backslash_of_isQuote hq) p.toList [])

/-- A backslash in front of the last quote escapes it, and two of them do not. A lone quote inside
    closes the quotation too early; with a backslash in front of it the text is one quotation. -/
theorem unquoted?_iff_closed_apostrophe :
    unquoted? "'it\\'" = none ∧ unquoted? "'it\\n\\\\'" = some "it\n\\" ∧
      unquoted? "'it's'" = none ∧ unquoted? "'it\\'s'" = some "it's" ∧
      tokenize "'it\\'s'" = .ok [.leaf "'it\\'s'"] := by
  obtain ⟨hread, hquoted⟩ := unquoted?_iff_closed
  have hescaped := hread "'it\\'" '\'' ['i', 't', '\\', '\''] (by decide) rfl
  have hdoubled := hread "'it\\n\\\\'" '\'' ['i', 't', '\\', 'n', '\\', '\\', '\'']
    (by decide) rfl
  have hlone := hread "'it's'" '\'' ['i', 't', '\'', 's', '\''] (by decide) rfl
  have hopen : closeQuote '\'' ['i', 't', '\\', '\''] ≠ some (['i', 't', '\\', '\''], []) := by
    decide
  have hearly : closeQuote '\'' ['i', 't', '\'', 's', '\''] ≠
      some (['i', 't', '\'', 's', '\''], []) := by
    decide
  have hinside : Decodes ['i', 't', '\\', 'n', '\\', '\\'] ['i', 't', '\n', '\\'] :=
    .plain (by decide) (.plain (by decide) (.lineEnd (.escaped (by decide) (by decide) .nil)))
  refine ⟨?_, ?_, ?_, hquoted "it's" '\'' rfl⟩
  · exact Option.not_isSome_iff_eq_none.mp fun h => hopen (hescaped.1.mp h)
  · exact (hdoubled.2 "it\n\\").mpr ⟨by decide, _, rfl, hinside⟩
  · exact Option.not_isSome_iff_eq_none.mp fun h => hearly (hlone.1.mp h)

end Texts

end PageWatch.Pattern
