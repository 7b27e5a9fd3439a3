import Mathlib.Data.List.TakeDrop
import PageWatch.Json.Reader
import PageWatch.Json.Writer
import PageWatch.Proofs.Answer

/-!
# Reading back what was written: texts and numbers

`Takes read v a` says that a reader takes the text of a value for `a`, in front of whatever may
follow a value. This module has it for what is not put together of other values:

* `readChars_escapeChar`: **what a character is written as is read as this character**, for every
  character, and nothing of what follows is touched;
* `readSpelling_toDigits`: the decimal digits of a number are a spelling without fraction and
  exponent, because nothing that may follow a value goes on with a number;
* `takes_string`, `takes_natural`, `takes_bool`.
-/

namespace PageWatch.Json

/-! ## 1. What stands around a value -/

/-- What may stand behind a value in a written text. -/
inductive Ends : List Char → Prop
  | atEnd : Ends []
  | comma (rest : List Char) : Ends (',' :: rest)
  | bracket (rest : List Char) : Ends (']' :: rest)
  | brace (rest : List Char) : Ends ('\x7D' :: rest)

/-- **The reader takes the text of `v` for `a`** and leaves what follows it. -/
def Takes {α : Type} (read : Reader α) (v : Value) (a : α) : Prop :=
  ∀ rest, Ends rest → read (v.render.toList ++ rest) = .ok (a, rest)

/-- A reader that converts what it has read. -/
theorem Takes.map {α β : Type} {read : Reader α} {v : Value} {a : α} (f : α → β)
    (h : Takes read v a) :
    Takes (fun cs => (read cs).map fun (a, rest) => (f a, rest)) v (f a) := by
  intro rest hrest
  dsimp only
  rw [h rest hrest]
  rfl

theorem skipBlanks_cons {c : Char} (h : isJsonBlank c = false) (rest : List Char) :
    skipBlanks (c :: rest) = c :: rest :=
  List.dropWhile_cons_of_neg (Bool.eq_false_iff.mp h)

/-! ## 2. Texts -/

theorem hexDigit?_digitChar :
    ∀ d, d < 16 → Unicode.CharSet.hexDigit? (Nat.digitChar d) = some d := by
  decide

/-- The four digits of a control character. -/
theorem hex4?_hexPair {n : Nat} (h : n < 0x20) :
    hex4? '0' '0' (Nat.digitChar (n / 16)) (Nat.digitChar (n % 16)) = some n := by
  have hzero : Unicode.CharSet.hexDigit? '0' = some 0 := by decide
  have hhigh := hexDigit?_digitChar (n / 16) (by omega)
  have hlow := hexDigit?_digitChar (n % 16) (by omega)
  have hn : ((0 * 16 + 0) * 16 + n / 16) * 16 + n % 16 = n := by omega
  simp only [hex4?, hzero, hhigh, hlow, Option.bind_eq_bind, Option.bind_some, Option.pure_def, hn]

/-- **How a character is written**: by a short escape, by its code, or as it is. -/
theorem escapeChar_cases (c : Char) :
    (∃ e, escapeChar c = ['\\', e] ∧ e ≠ 'u' ∧ shortEscape? e = some c) ∨
      (escapeChar c = ['\\', 'u', '0', '0'] ++ hexPair c.toNat ∧ c.toNat < 0x20) ∨
      (escapeChar c = [c] ∧ c ≠ '"' ∧ c ≠ '\\' ∧ ¬c.toNat < 0x20) := by
  by_cases hshort : c ∈ ['"', '\\', '\x08', '\x0C', '\n', '\r', '\t']
  · simp only [List.mem_cons, List.not_mem_nil, or_false] at hshort
    rcases hshort with rfl | rfl | rfl | rfl | rfl | rfl | rfl <;>
      exact .inl ⟨_, rfl, by decide, rfl⟩
  · simp only [List.mem_cons, List.not_mem_nil, or_false, not_or] at hshort
    obtain ⟨hquote, hback, hb, hf, hn, hr, ht⟩ := hshort
    right
    rw [escapeChar, if_neg hquote, if_neg hback, if_neg hb, if_neg hf, if_neg hn, if_neg hr,
      if_neg ht]
    split
    · next hc => exact .inl ⟨rfl, hc⟩
    · next hc => exact .inr ⟨rfl, hquote, hback, hc⟩

theorem readChars_shortEscape {e c : Char} (he : e ≠ 'u') (h : shortEscape? e = some c)
    (rest : List Char) :
    readChars ('\\' :: e :: rest) = (readChars rest).map (consRead c) := by
  rw [readChars, h]
  rintro _ _ _ _ _ rfl
  exact absurd rfl he

theorem readChars_plain {c : Char} (hquote : c ≠ '"') (hback : c ≠ '\\') (hc : ¬c.toNat < 0x20)
    (rest : List Char) : readChars (c :: rest) = (readChars rest).map (consRead c) := by
  rw [readChars, if_neg hc]
  · exact hquote
  · rintro _ _ _ _ _ rfl
    exact absurd rfl hback
  · rintro _ _ rfl
    exact absurd rfl hback

/-- **What a character is written as is read as this character.** -/
theorem readChars_escapeChar (c : Char) (rest : List Char) :
    readChars (escapeChar c ++ rest) = (readChars rest).map (consRead c) := by
  rcases escapeChar_cases c with ⟨e, hc, he, hshort⟩ | ⟨hc, hsmall⟩ | ⟨hc, hquote, hback, hlarge⟩
  · rw [hc]
    exact readChars_shortEscape he hshort rest
  · have hcode : c.toNat < 0xD800 := by omega
    rw [hc]
    show readChars ('\\' :: 'u' :: '0' :: '0' :: Nat.digitChar (c.toNat / 16) ::
      Nat.digitChar (c.toNat % 16) :: rest) = _
    rw [readChars, hex4?_hexPair hsmall]
    simp [hcode, Char.ofNat_toNat]
  · rw [hc]
    exact readChars_plain hquote hback hlarge rest

theorem readChars_written (cs rest : List Char) :
    readChars (cs.flatMap escapeChar ++ '"' :: rest) = some (cs, rest) := by
  induction cs with
  | nil => rfl
  | cons c cs ih =>
    rw [List.flatMap_cons, List.append_assoc, readChars_escapeChar, ih]
    rfl

/-- **A written text is read back**, whatever follows its closing quote. -/
theorem readText_written (s : String) (rest : List Char) :
    readText (s.toList.flatMap escapeChar ++ '"' :: rest) = some (s, rest) := by
  rw [readText, readChars_written, Option.map_some]
  dsimp only
  rw [String.ofList_toList]

theorem render_string (s : String) :
    (Value.string s).render.toList = '"' :: (s.toList.flatMap escapeChar ++ ['"']) := by
  rw [Value.render, writeText, String.toList_ofList, writeChars]

theorem takes_string (s : String) : Takes readString (.string s) s := by
  intro rest _
  rw [render_string, List.cons_append, List.append_assoc, List.singleton_append, readString,
    readStringAs, skipBlanks_cons (by decide)]
  show orMalformed (readText _) = _
  rw [readText_written]
  rfl

/-- A text that was written for a choice is converted back. -/
theorem takes_converted {α : Type} {convert : String → Except String α} {s : String} {a : α}
    (h : convert s = .ok a) : Takes (readConverted convert) (.string s) a := by
  intro rest hrest
  rw [readConverted, takes_string s rest hrest]
  dsimp only
  rw [h]

/-! ## 3. Truth values -/

theorem takes_bool (b : Bool) : Takes readBool (.bool b) b := by
  intro rest _
  cases b <;> simp [Value.render, readBool, skipBlanks, isJsonBlank, afterWord?, orMalformed]

/-! ## 4. Numbers -/

/-- No digit and nothing else that would go on with a number may follow a value. -/
theorem Ends.spanDigits {rest : List Char} (h : Ends rest) {ds : List Char}
    (hds : ∀ c ∈ ds, c.isDigit = true) : spanDigits (ds ++ rest) = (ds, rest) := by
  have htake : rest.takeWhile Char.isDigit = [] := by
    cases h <;> rfl
  have hdrop : rest.dropWhile Char.isDigit = rest := by
    cases h <;> rfl
  rw [Json.spanDigits, List.span_eq_takeWhile_dropWhile, List.takeWhile_append_of_pos hds,
    List.dropWhile_append_of_pos hds, htake, hdrop, List.append_nil]

theorem Ends.readFraction {rest : List Char} (h : Ends rest) :
    readFraction rest = some (none, rest) := by
  cases h <;> rfl

theorem Ends.readExponent {rest : List Char} (h : Ends rest) :
    readExponent rest = some (none, rest) := by
  cases h <;> rfl

theorem isDigit_of_mem_toDigits {n : Nat} {c : Char} (h : c ∈ Nat.toDigits 10 n) :
    c.isDigit = true :=
  Nat.isDigit_of_mem_toDigits (by decide) (by decide) h

theorem exists_toDigits_eq_cons (n : Nat) :
    ∃ d ds, Nat.toDigits 10 n = d :: ds ∧ d.isDigit = true := by
  cases h : Nat.toDigits 10 n with
  | nil => exact absurd h Nat.toDigits_ne_nil
  | cons d ds => exact ⟨d, ds, rfl, isDigit_of_mem_toDigits (h ▸ List.mem_cons_self)⟩

theorem isJsonBlank_of_isDigit {c : Char} (h : c.isDigit = true) : isJsonBlank c = false := by
  refine Bool.eq_false_iff.mpr fun hb => ?_
  simp only [isJsonBlank, Bool.or_eq_true, decide_eq_true_eq] at hb
  rcases hb with ((rfl | rfl) | rfl) | rfl <;> cases h

/-- Decimal digits begin with `0` only where they are no more than that. -/
theorem toDigits_eq_zero_cons (n : Nat) {ds : List Char} (h : Nat.toDigits 10 n = '0' :: ds) :
    ds = [] := by
  induction n using Nat.strongRecOn generalizing ds with
  | _ n ih =>
    rw [Nat.toDigits_eq_if (by decide)] at h
    split at h
    · exact (List.cons.inj h).2.symm
    · next hn =>
      -- The first digit is that of the number without its last digit, which is not zero.
      obtain ⟨d, ds', hm, -⟩ := exists_toDigits_eq_cons (n / 10)
      rw [hm, List.cons_append] at h
      obtain ⟨rfl, -⟩ := List.cons.inj h
      obtain rfl : ds' = [] := ih (n / 10) (by omega) hm
      have hvalue : Nat.ofDigitChars 10 (Nat.toDigits 10 (n / 10)) 0 = n / 10 :=
        Nat.ofDigitChars_ten_toDigits
      have hzero : Nat.ofDigitChars 10 ['0'] 0 = 0 := by decide
      rw [hm] at hvalue
      omega

theorem readWhole_toDigits (n : Nat) {rest : List Char} (h : Ends rest) :
    readWhole (Nat.toDigits 10 n ++ rest) = some (Nat.toDigits 10 n, rest) := by
  rw [readWhole, h.spanDigits fun _ => isDigit_of_mem_toDigits]
  obtain ⟨d, ds, hds, -⟩ := exists_toDigits_eq_cons n
  rw [hds]
  by_cases hd : d = '0'
  · subst hd
    rw [toDigits_eq_zero_cons n hds]
    rfl
  · simp [hd]

/-- **The digits of a number are a spelling** without sign, fraction and exponent. -/
theorem readSpelling_toDigits (n : Nat) {rest : List Char} (h : Ends rest) :
    readSpelling (Nat.toDigits 10 n ++ rest) =
      some (⟨false, Nat.toDigits 10 n, none, none⟩, rest) := by
  have hwhole := readWhole_toDigits n h
  obtain ⟨d, ds, hds, hdigit⟩ := exists_toDigits_eq_cons n
  rw [hds, List.cons_append] at hwhole
  rw [hds, List.cons_append, readSpelling]
  · simp [hwhole, h.readFraction, h.readExponent]
  · rintro rest' hminus
    obtain ⟨rfl, -⟩ := List.cons.inj hminus
    cases hdigit

theorem number?_toDigits {n : Nat} (h : n ≤ maxWord) :
    Spelling.number? ⟨false, Nat.toDigits 10 n, none, none⟩ = some (.natural n) := by
  have hvalue : (Nat.toDigits 10 n).foldl (fun n c => n * 10 + digitValue c) 0 = n := by
    have hfold := Nat.ofDigitChars_ten_toDigits (n := n)
    rw [Nat.ofDigitChars_eq_foldl] at hfold
    simpa only [digitValue, Nat.mul_comm] using hfold
  simp [Spelling.number?, hvalue, h]

theorem render_natural (n : Nat) : (Value.natural n).render.toList = Nat.toDigits 10 n := by
  rw [Value.render]
  exact Nat.toList_repr

/-- **A number is read back** where the reader allows it. -/
theorem takes_natural {max n : Nat} (wanted : String) (hmax : max ≤ maxWord) (hn : n ≤ max) :
    Takes (readNatural max wanted) (.natural n) n := by
  intro rest hrest
  have hspelling := readSpelling_toDigits n hrest
  have hnumber := number?_toDigits (Nat.le_trans hn hmax)
  rw [render_natural]
  obtain ⟨d, ds, hds, hdigit⟩ := exists_toDigits_eq_cons n
  rw [hds] at hnumber
  rw [hds, List.cons_append] at hspelling
  rw [hds, List.cons_append, readNatural, skipBlanks_cons (isJsonBlank_of_isDigit hdigit)]
  simp [readNumber, hdigit, hspelling, hnumber, hn]

/-- Nothing larger is ever read, whatever the text. -/
theorem le_of_readNatural {max n : Nat} {wanted : String} {cs rest : List Char}
    (h : readNatural max wanted cs = .ok (n, rest)) : n ≤ max := by
  rw [readNatural] at h
  split at h
  · cases h
  · split at h
    · split at h
      · cases h
      · split at h
        · next hle =>
          cases h
          exact hle
        · cases h
      · cases h
      · cases h
    · rw [unexpected] at h
      split at h <;> cases h

end PageWatch.Json
