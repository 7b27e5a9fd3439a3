import PageWatch.Pattern.Outcome
import PageWatch.Proofs.Answer
import PageWatch.Regex.Basic

/-!
# Searching by bytes

A text is looked for by its bytes, and found where its characters stand. This rests on one fact
about UTF-8: **the first byte of a character is no other byte of any character**
(`UInt8.isUTF8FirstByte_getElem_utf8EncodeChar`). So a piece that begins with a first byte begins
where a character begins (`exists_eq_utf8EncodeChar_append`), and then it is read character by
character (`exists_eq_append_of_bytes`).

Main statements: `exists_of_bytes_eq`, by which bytes that are those of some characters lie between
characters, `occursIn_iff`, and `string_found_iff` for leaves.
-/

namespace PageWatch.Text

/-! ## 1. Pieces -/

theorem hasPiece_iff {piece bs : List UInt8} : hasPiece piece bs = true ↔ piece <:+: bs := by
  induction bs with
  | nil => rw [hasPiece, List.isEmpty_iff, List.infix_nil]
  | cons b rest ih =>
    rw [hasPiece, Bool.or_eq_true, ih, List.isPrefixOf_iff_prefix, List.infix_cons_iff]

theorem bytes_cons (c : Char) (cs : List Char) :
    bytes (c :: cs) = String.utf8EncodeChar c ++ bytes cs := List.flatMap_cons

theorem bytes_append (cs ds : List Char) : bytes (cs ++ ds) = bytes cs ++ bytes ds :=
  List.flatMap_append

/-! ## 2. Where a piece of bytes can begin -/

section Pieces

variable {c : Char} {cs ds : List Char} {b : UInt8} {front back rest : List UInt8}

theorem exists_bytes_eq_cons (hne : ds ≠ []) :
    ∃ b rest, bytes ds = b :: rest ∧ b.IsUTF8FirstByte := by
  obtain ⟨d, ds, rfl⟩ := List.exists_cons_of_ne_nil hne
  obtain ⟨b, more, hd⟩ := List.exists_cons_of_ne_nil (String.utf8EncodeChar_ne_nil (c := d))
  have hfirst := UInt8.isUTF8FirstByte_getElem_zero_utf8EncodeChar (c := d)
  refine ⟨b, more ++ bytes ds, by rw [bytes_cons, hd, List.cons_append], ?_⟩
  simpa only [hd, List.getElem_cons_zero] using hfirst

/-- What stands in front of a first byte does not end in the middle of a character. -/
theorem exists_eq_utf8EncodeChar_append (hb : b.IsUTF8FirstByte) (hfront : front ≠ [])
    (h : front ++ b :: rest = String.utf8EncodeChar c ++ back) :
    ∃ front', front = String.utf8EncodeChar c ++ front' := by
  rcases List.append_eq_append_iff.mp h with ⟨inside, hc, hinside⟩ | ⟨front', hf, -⟩
  · cases inside with
    | nil => exact ⟨[], by rw [hc, List.append_nil, List.append_nil]⟩
    | cons b' inside =>
      -- The byte would be one of the character `c`, and not its first one.
      obtain rfl : b = b' := (List.cons.inj hinside).1
      have hlt : front.length < (String.utf8EncodeChar c).length := by simp [hc]
      have hget : (String.utf8EncodeChar c)[front.length] = b := by simp [hc]
      rw [← hget, UInt8.isUTF8FirstByte_getElem_utf8EncodeChar, List.length_eq_zero_iff] at hb
      exact absurd hb hfront
  · exact ⟨front', hf⟩

/-- Bytes that begin with those of some characters are those of a text that begins with them. -/
theorem exists_eq_append_of_bytes (h : bytes ds ++ back = bytes cs) :
    ∃ after, cs = ds ++ after ∧ back = bytes after := by
  have harray : ds.utf8Encode ++ back.toByteArray = cs.utf8Encode := by
    rw [List.utf8Encode, List.utf8Encode, ← List.toByteArray_append]
    exact congrArg List.toByteArray h
  obtain ⟨after, rfl⟩ := List.isPrefix_of_utf8Encode_append_eq_utf8Encode _ harray
  rw [bytes_append] at h
  exact ⟨after, rfl, List.append_cancel_left h⟩

/-- **Bytes that are those of some characters lie between characters**: in front of them and
    behind them stand the bytes of whole characters. -/
theorem exists_of_bytes_eq (hne : ds ≠ []) (h : front ++ bytes ds ++ back = bytes cs) :
    ∃ before after, cs = before ++ ds ++ after ∧ front = bytes before ∧ back = bytes after := by
  obtain ⟨b, rest, hds, hb⟩ := exists_bytes_eq_cons hne
  induction cs generalizing front with
  | nil =>
    have h : front ++ bytes ds ++ back = [] := h
    simp [hds] at h
  | cons c cs ih =>
    by_cases hfront : front = []
    · subst hfront
      obtain ⟨after, hcs, hback⟩ := exists_eq_append_of_bytes h
      exact ⟨[], after, hcs, rfl, hback⟩
    · have hwhole : front ++ b :: (rest ++ back) = String.utf8EncodeChar c ++ bytes cs := by
        rw [← bytes_cons, ← h, hds, List.append_assoc, List.cons_append]
      obtain ⟨front', rfl⟩ := exists_eq_utf8EncodeChar_append hb hfront hwhole
      have hrest : front' ++ bytes ds ++ back = bytes cs := by
        rw [List.append_assoc] at hwhole
        rw [hds, List.append_assoc, List.cons_append]
        exact List.append_cancel_left hwhole
      obtain ⟨before, after, rfl, rfl, hback⟩ := ih hrest
      exact ⟨c :: before, after, rfl, (bytes_cons c before).symm, hback⟩

end Pieces

/-- **What is found by bytes is a piece of the text**, and the other way round. -/
theorem occursIn_iff {text content : String} :
    occursIn text content = true ↔ text.toList <:+: content.toList := by
  rw [occursIn, hasPiece_iff]
  constructor
  · rintro ⟨front, back, h⟩
    by_cases hne : text.toList = []
    · rw [hne]
      exact List.nil_infix
    · obtain ⟨before, after, hcs, -, -⟩ := exists_of_bytes_eq hne h
      exact ⟨before, after, hcs.symm⟩
  · rintro ⟨before, after, h⟩
    exact ⟨bytes before, bytes after, by rw [← h, bytes_append, bytes_append]⟩

end PageWatch.Text

namespace PageWatch.Pattern

open PageWatch.Text

/-- **Searching by bytes is searching by characters.** A string leaf has an outcome on every text;
    it is found if its bytes stand in those of the text as one piece, which is the case if its
    characters stand in the text as one piece. Every piece of the text's bytes that consists of the
    bytes of a pattern with at least one character begins and ends between characters, and the
    pattern stands there. -/
theorem string_found_iff [Regex.Engine] {l : Leaf} (h : l.kind = .string) (content : String) :
    (∃ o, ((Expression.leaf l).evaluate content).1 = .ok o ∧
      (o.found = true ↔ bytes l.pattern.toList <:+: bytes content.toList) ∧
      (o.found = true ↔ l.pattern.toList <:+: content.toList)) ∧
    (l.pattern ≠ "" → ∀ front back,
      front ++ bytes l.pattern.toList ++ back = bytes content.toList →
      ∃ before after, content.toList = before ++ l.pattern.toList ++ after ∧
        front = bytes before ∧ back = bytes after) := by
  refine ⟨?_, fun hne front back hbytes => ?_⟩
  · refine ⟨⟨occursIn l.pattern content,
      if occursIn l.pattern content then [l.pattern] else []⟩, ?_, hasPiece_iff, occursIn_iff⟩
    rw [Expression.evaluate, Leaf.evaluate, Leaf.matched, h]
    cases hfound : occursIn l.pattern content <;> simp
  · have hne : l.pattern.toList ≠ [] := fun hnil => hne (String.toList_eq_nil_iff.mp hnil)
    exact exists_of_bytes_eq hne hbytes

/-- The second byte of `é` (C3 A9) is the second byte of `©` (C2 A9) too, but a piece that begins
    there is not the bytes of any character. -/
theorem string_found_iff_multibyte :
    (∃ o, ((Expression.leaf (.fresh .string "é©")).evaluate "aé©é").1 = .ok o ∧
      (o.found = true ↔ "é©".toList <:+: "aé©é".toList)) ∧
    ∃ before after, "aé©é".toList = before ++ "é©".toList ++ after ∧
      [0x61] = bytes before ∧ [0xC3, 0xA9] = bytes after := by
  obtain ⟨⟨o, ho, -, hfound⟩, hpieces⟩ :=
    string_found_iff (l := .fresh .string "é©") rfl "aé©é"
  exact ⟨⟨o, ho, hfound⟩, hpieces (by decide) [0x61] [0xC3, 0xA9] (by decide)⟩

end PageWatch.Pattern
