import PageWatch.Pattern.Leaf
import PageWatch.Proofs.Scan

/-!
# Quoting

Any text can be put between quotes so that it is read back. `quotation q` escapes backslashes and
the quote `q`, and nothing else. Main statements, for every text:

* `closeQuote_quoted`: the quotation ends at its own closing quote, whatever follows;
* `unquotedChars?_quotation`: **it stands for the text that was quoted**;
* `ofRaw_written`: a leaf written with its kind and its quoted pattern is read back, and
  `leafText_written` that scanning takes it whole.
-/

namespace PageWatch.Pattern

open PageWatch.Text

/-! ## 1. Quotations -/

/-- A character inside a quotation in `q`: a backslash stands in front of backslashes and of
    `q`. -/
def quoteChar (q c : Char) : List Char := if c = '\\' ∨ c = q then ['\\', c] else [c]

/-- The characters of a text inside a quotation in `q`. -/
def quoted (q : Char) (cs : List Char) : List Char := cs.flatMap (quoteChar q)

/-- **The quotation of a text** in the quote `q`. -/
def quotation (q : Char) (cs : List Char) : List Char := q :: (quoted q cs ++ [q])

section Quote

variable {q : Char}

theorem quoted_cons_escaped {c : Char} (h : c = '\\' ∨ c = q) (cs : List Char) :
    quoted q (c :: cs) = '\\' :: c :: quoted q cs := by
  simp [quoted, quoteChar, h]

theorem quoted_cons_plain {c : Char} (h : ¬(c = '\\' ∨ c = q)) (cs : List Char) :
    quoted q (c :: cs) = c :: quoted q cs := by
  simp [quoted, quoteChar, h]

/-- **A quotation ends at its own closing quote**, whatever follows. -/
theorem closeQuote_quoted (hq : q ≠ '\\') (cs rest : List Char) :
    closeQuote q (quoted q cs ++ q :: rest) = some (quoted q cs ++ [q], rest) := by
  induction cs with
  | nil =>
    show closeQuote q (q :: rest) = _
    rw [closeQuote_cons hq, if_pos rfl]
    rfl
  | cons c cs ih =>
    by_cases h : c = '\\' ∨ c = q
    · rw [quoted_cons_escaped h, List.cons_append, List.cons_append, closeQuote, ih]
      rfl
    · rw [quoted_cons_plain h, List.cons_append, closeQuote_cons (fun hc => h (.inl hc)),
        if_neg (fun hc => h (.inr hc)), ih]
      rfl

theorem decodeBody_cons {c : Char} {rest : List Char} (hc : c ≠ '\\') :
    decodeBody q (c :: rest) = if c = q then none else (decodeBody q rest).map (c :: ·) := by
  rw [decodeBody]
  · rintro rfl
    exact absurd rfl hc
  · rintro d rest' rfl
    exact absurd rfl hc

/-- Decoding takes the escapes away again. The quote must be none of the letters that an escape
    gives another meaning. -/
theorem decodeBody_quoted (hq : unescape q = q) (cs : List Char) :
    decodeBody q (quoted q cs) = some cs := by
  induction cs with
  | nil => rfl
  | cons c cs ih =>
    by_cases h : c = '\\' ∨ c = q
    · have hc : unescape c = c := by
        rcases h with rfl | rfl
        · rfl
        · exact hq
      rw [quoted_cons_escaped h, decodeBody, ih, Option.map_some, hc]
    · rw [quoted_cons_plain h, decodeBody_cons (fun hc => h (.inl hc)),
        if_neg (fun hc => h (.inr hc)), ih]
      rfl

theorem isQuote_cases (h : isQuote q = true) : q = '"' ∨ q = '\'' := by
  simpa [isQuote] using h

/-- **A quotation stands for the text that was quoted.** -/
theorem unquotedChars?_quotation (hq : isQuote q = true) (cs : List Char) :
    unquotedChars? (quotation q cs) = some cs := by
  have hu : unescape q = q := by
    rcases isQuote_cases hq with rfl | rfl <;> rfl
  have hlast : (quoted q cs ++ [q]).getLast? = some q := by simp
  rw [quotation, unquotedChars?, hq, hlast]
  simpa using decodeBody_quoted hu cs

end Quote

/-! ## 2. Leaves -/

/-- **A leaf as it is written**: its kind, a colon, and its pattern between double quotes. -/
def Leaf.written (l : Leaf) : List Char :=
  l.kind.name.toList ++ ':' :: quotation '"' l.pattern.toList

theorem name_toList (kind : LeafKind) :
    kind.name.toList = match kind with
      | .string => ['s', 't', 'r', 'i', 'n', 'g']
      | .regex => ['r', 'e', 'g', 'e', 'x'] := by
  cases kind <;> rfl

/-- A written leaf begins with a letter and ends with a quote. -/
theorem trim_written (l : Leaf) : trim l.written = l.written := by
  obtain ⟨c, cs, hcs, hc⟩ : ∃ c cs, l.kind.name.toList = c :: cs ∧ isBlank c = false := by
    rw [name_toList]
    cases l.kind with
    | string => exact ⟨'s', _, rfl, by decide⟩
    | regex => exact ⟨'r', _, rfl, by decide⟩
  have hw : l.written = c :: ((cs ++ ':' :: '"' :: quoted '"' l.pattern.toList) ++ ['"']) := by
    simp [Leaf.written, quotation, hcs]
  rw [hw, trim_eq_self hc (by decide)]

theorem trim_quotation {q : Char} (hq : isQuote q = true) (cs : List Char) :
    trim (quotation q cs) = quotation q cs := by
  have hb : isBlank q = false := by
    rcases isQuote_cases hq with rfl | rfl <;> decide
  exact trim_eq_self hb hb

theorem splitKind_written (l : Leaf) :
    splitKind l.written = some (l.kind, quotation '"' l.pattern.toList) := by
  have hcolon : ∀ c ∈ l.kind.name.toList, (decide (c ≠ ':')) = true := by
    rw [name_toList]
    cases l.kind <;> exact List.all_eq_true.mp rfl
  have hword : l.written.takeWhile (· ≠ ':') = l.kind.name.toList := by
    rw [Leaf.written, List.takeWhile_append_of_pos hcolon]
    simp
  have hbody : l.written.dropWhile (· ≠ ':') = ':' :: quotation '"' l.pattern.toList := by
    rw [Leaf.written, List.dropWhile_append_of_pos hcolon]
    simp
  have hkind : LeafKind.ofWord? l.kind.name.toList = some l.kind := by
    cases l.kind <;> rfl
  have hne : (l.kind.name.toList.isEmpty || (quotation '"' l.pattern.toList).isEmpty) = false := by
    rw [name_toList]
    cases l.kind <;> rfl
  unfold splitKind
  dsimp only
  rw [hbody, hword]
  dsimp only
  rw [hne, hkind, trim_quotation (by decide)]
  rfl

/-- **A written leaf is read back.** -/
theorem ofRaw_written {l : Leaf} (h : l.pattern ≠ "") :
    Leaf.ofRaw (String.ofList l.written) = .ok l.forget := by
  have hp : l.pattern.toList.isEmpty = false := by
    simpa using h
  have hquoted : (unquotedChars? (quotation '"' l.pattern.toList)).getD
      (quotation '"' l.pattern.toList) = l.pattern.toList := by
    rw [unquotedChars?_quotation (by decide)]
    rfl
  unfold Leaf.ofRaw
  rw [String.toList_ofList, trim_written]
  dsimp only
  rw [splitKind_written, Option.getD_some]
  dsimp only
  rw [hquoted, hp, String.ofList_toList]
  rfl

/-! ## 3. Scanning a written leaf -/

/-- A character that is an atom of its own, wherever a leaf meets it. -/
def isPlain (c : Char) : Bool := !isBound c && !isQuote c && c ≠ '\\'

theorem leafTail_plain {before : Char} {w rest : List Char} (hb : isBound before = false)
    (hw : ∀ c ∈ w, isPlain c = true) :
    leafTail before (w ++ rest) =
      (leafTail (w.getLast?.getD before) rest).map fun (more, stop) => (w ++ more, stop) := by
  induction w generalizing before with
  | nil =>
    show leafTail before rest = (leafTail before rest).map _
    cases leafTail before rest <;> rfl
  | cons c w ih =>
    obtain ⟨hc, hw⟩ := List.forall_mem_cons.mp hw
    simp only [isPlain, Bool.and_eq_true, Bool.not_eq_true', decide_eq_true_eq] at hc
    obtain ⟨⟨hbound, hquote⟩, hne⟩ := hc
    have hstop : stopsLeaf (isBound before) (c :: (w ++ rest)) = false := by
      have hparen : isParen c = false := by
        simp only [isBound, Bool.or_eq_false_iff] at hbound
        exact hbound.2
      simp [stopsLeaf, hparen, hb]
    have hatom := atom_single (opensQuoteAfter before) hne (by simp [hquote]) (w ++ rest)
    have hlast : (c :: w).getLast?.getD before = w.getLast?.getD c := by
      cases w <;> rfl
    rw [List.cons_append, leafTail_of_not_stops hstop, leafFrom_of_atom hatom,
      List.getLast?_singleton, Option.getD_some, ih hbound hw, map_map, hlast]
    rfl

/-- Behind a colon a quotation is one atom. -/
theorem leafTail_quotation (cs rest : List Char) :
    leafTail ':' (quotation '"' cs ++ rest) =
      (leafTail '"' rest).map fun (more, stop) => (quotation '"' cs ++ more, stop) := by
  have hclose := closeQuote_quoted (q := '"') (by decide) cs rest
  have hatom : atom (opensQuoteAfter ':') '"' (quoted '"' cs ++ '"' :: rest) =
      .ok (quotation '"' cs, rest) := by
    unfold atom
    rw [if_neg (by decide), if_pos (by decide), hclose]
    rfl
  have hstop : stopsLeaf (isBound ':') ('"' :: (quoted '"' cs ++ '"' :: rest)) = false := rfl
  have htext : quotation '"' cs ++ rest = '"' :: (quoted '"' cs ++ '"' :: rest) := by
    simp [quotation]
  have hlast : (quotation '"' cs).getLast?.getD '"' = '"' := by
    simp [quotation, List.getLast?_cons]
  rw [htext, leafTail_of_not_stops hstop, leafFrom_of_atom hatom, hlast]

/-- **A written leaf is scanned whole**: what follows is left to the tail behind its quote. -/
theorem leafText_written (l : Leaf) (rest : List Char) :
    ∃ c cs, l.written = c :: cs ∧ isBound c = false ∧ (∀ t, keyword? (c :: t) = none) ∧
      leafText c (cs ++ rest) =
        (leafTail '"' rest).map fun (more, stop) => (l.written ++ more, stop) := by
  obtain ⟨c, w, hname, hk, hc, hw⟩ : ∃ c w, l.kind.name.toList = c :: w ∧
      (∀ t, keyword? (c :: t) = none) ∧ isPlain c = true ∧ ∀ d ∈ w ++ [':'], isPlain d = true := by
    rw [name_toList]
    cases l.kind with
    | string => exact ⟨'s', _, rfl, fun _ => rfl, rfl, List.all_eq_true.mp rfl⟩
    | regex => exact ⟨'r', _, rfl, fun _ => rfl, rfl, List.all_eq_true.mp rfl⟩
  simp only [isPlain, Bool.and_eq_true, Bool.not_eq_true', decide_eq_true_eq] at hc
  obtain ⟨⟨hbound, hquote⟩, hne⟩ := hc
  refine ⟨c, w ++ ':' :: quotation '"' l.pattern.toList, ?_, hbound, hk, ?_⟩
  · rw [Leaf.written, hname]
    rfl
  · have htext : w ++ ':' :: quotation '"' l.pattern.toList ++ rest =
        (w ++ [':']) ++ (quotation '"' l.pattern.toList ++ rest) := by simp
    have hlast : (w ++ [':']).getLast?.getD c = ':' := by simp
    have hatom := atom_single true hne (by simp [hquote])
      ((w ++ [':']) ++ (quotation '"' l.pattern.toList ++ rest))
    rw [htext, leafText_eq_leafFrom, leafFrom_of_atom hatom, List.getLast?_singleton,
      Option.getD_some, leafTail_plain hbound hw, hlast, leafTail_quotation, map_map, map_map]
    congr 1
    funext r
    simp [Leaf.written, hname]

/-- What stands behind a leaf in a written expression: nothing, the end of a group, or a blank and
    a keyword. The blanks `v` go to the leaf, the stop `rest` does not. -/
theorem scan_written {l : Leaf} {v rest : List Char} (hv : ∀ c ∈ v, isBlank c = true)
    (h : leafTail '"' (v ++ rest) = .ok (v, rest)) :
    scan (l.written ++ (v ++ rest)) =
      (scan (v ++ rest)).map (.leaf (String.ofList l.written) :: ·) := by
  obtain ⟨c, cs, hw, hc, hk, hl⟩ := leafText_written l (v ++ rest)
  rw [h, map_ok] at hl
  have htoken : leafToken (l.written ++ v) = [.leaf (String.ofList l.written)] := by
    have hne : l.written.isEmpty = false := by
      rw [hw]
      rfl
    rw [leafToken_append hv, leafToken, trim_written, hne]
    rfl
  rw [scan_blanks hv, hw, List.cons_append, scan_leaf hc (hk _) hl, htoken, ← hw]
  rfl

end PageWatch.Pattern
