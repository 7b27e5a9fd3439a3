import PageWatch.Proofs.Json.Scalars
import PageWatch.Proofs.Session

/-!
# Shown expressions

The shown form of an expression tells the expression: nothing in it can be read in two ways.

* `Text.Quoted.readEscape_escape`: **what one character is written as between quotes is read back as
  this character**, whether it stands for itself, has a short escape or is written by its code, and
  nothing of what follows is touched;
* `Text.Quoted.encode_append_inj`: so a quoted text shows where it ends;
* `Expression.Delimited`: the same of the shown form of a tree. `delimited` is the induction over
  trees: operands are told apart by the commas and the closing parenthesis behind them, which no
  shown form begins with.

Main statement: `display_eq_iff`.
-/

namespace PageWatch.Text.Quoted

/-! ## 1. Codes of characters -/

/-- **What holds of the single digits, and of a number with one digit more, holds of the digits of
    every number.** -/
@[elab_as_elim]
theorem toDigits_induction {motive : Nat → List Char → Prop}
    (digit : ∀ d, d < 16 → motive d [Nat.digitChar d])
    (more : ∀ n ds d, d < 16 → motive n ds → motive (16 * n + d) (ds ++ [Nat.digitChar d]))
    (n : Nat) : motive n (Nat.toDigits 16 n) := by
  induction n using Nat.strongRecOn with
  | ind n ih =>
    by_cases hn : n < 16
    · rw [Nat.toDigits_of_lt_base hn]
      exact digit n hn
    · have hhigh : motive (n / 16) (Nat.toDigits 16 (n / 16)) := ih (n / 16) (by omega)
      have hmore := more (n / 16) _ (n % 16) (Nat.mod_lt n (by decide)) hhigh
      rw [Nat.div_add_mod] at hmore
      rw [Nat.toDigits_of_base_le (by decide) (Nat.le_of_not_lt hn)]
      exact hmore

/-- The number with these hexadecimal digits. -/
def hexValue (ds : List Char) : Nat :=
  ds.foldl (fun n d => 16 * n + (Unicode.CharSet.hexDigit? d).getD 0) 0

theorem hexValue_append_digitChar (ds : List Char) {d : Nat} (hd : d < 16) :
    hexValue (ds ++ [Nat.digitChar d]) = 16 * hexValue ds + d := by
  rw [hexValue, List.foldl_append, List.foldl_cons, List.foldl_nil,
    Json.hexDigit?_digitChar d hd]
  rfl

theorem hexValue_toDigits (n : Nat) : hexValue (Nat.toDigits 16 n) = n := by
  induction n using toDigits_induction with
  | digit d hd => exact (hexValue_append_digitChar [] hd).trans (Nat.zero_add d)
  | more n ds d hd ih => rw [hexValue_append_digitChar ds hd, ih]

theorem digitChar_ne_brace : ∀ d, d < 16 → '\x7D' ≠ Nat.digitChar d := by
  decide

theorem brace_notMem_toDigits (n : Nat) : '\x7D' ∉ Nat.toDigits 16 n := by
  induction n using toDigits_induction with
  | digit d hd =>
    rw [List.mem_singleton]
    exact digitChar_ne_brace d hd
  | more n ds d hd ih =>
    rw [List.mem_append, List.mem_singleton, not_or]
    exact ⟨ih, digitChar_ne_brace d hd⟩

/-! ## 2. Quoted texts -/

/-- The character that a short escape stands for. -/
def shortMeaning : Char → Char
  | 't' => '\t'
  | 'r' => '\r'
  | 'n' => '\n'
  | '0' => '\x00'
  | e => e

/-- The character that stands at the front of a quoted text, as itself or by an escape, and the
    rest of the text. -/
def readEscape : List Char → Option (Char × List Char)
  | '\\' :: 'u' :: '\x7B' :: cs =>
    some (Char.ofNat (hexValue (cs.takeWhile (· ≠ '\x7D'))), (cs.dropWhile (· ≠ '\x7D')).tail)
  | '\\' :: e :: cs => some (shortMeaning e, cs)
  | c :: cs => some (c, cs)
  | [] => none

/-- **How a character is written**: by a short escape, as it is, or by its code. -/
theorem escape_cases (c : Char) :
    (∃ e, escape c = ['\\', e] ∧ e ≠ 'u' ∧ shortMeaning e = c) ∨
      (escape c = [c] ∧ c ≠ '"' ∧ c ≠ '\\') ∨
      escape c = byCode c := by
  by_cases hshort : c ∈ ['"', '\\', '\t', '\r', '\n', '\x00']
  · simp only [List.mem_cons, List.not_mem_nil, or_false] at hshort
    rcases hshort with rfl | rfl | rfl | rfl | rfl | rfl <;>
      exact .inl ⟨_, rfl, by decide, rfl⟩
  · simp only [List.mem_cons, List.not_mem_nil, or_false, not_or] at hshort
    obtain ⟨hquote, hback, ht, hr, hn, hnull⟩ := hshort
    right
    rw [escape, if_neg hquote, if_neg hback, if_neg ht, if_neg hr, if_neg hn, if_neg hnull]
    split
    · exact .inl ⟨rfl, hquote, hback⟩
    · exact .inr rfl

theorem readEscape_byCode (c : Char) (rest : List Char) :
    readEscape (byCode c ++ rest) = some (c, rest) := by
  have hdigits : ∀ d ∈ Nat.toDigits 16 c.toNat, (decide (d ≠ '\x7D')) = true := fun d hd =>
    decide_eq_true fun h => brace_notMem_toDigits c.toNat (h ▸ hd)
  show readEscape ('\\' :: 'u' :: '\x7B' :: (Nat.toDigits 16 c.toNat ++ ['\x7D'] ++ rest)) = _
  rw [List.append_assoc, List.singleton_append, readEscape,
    List.takeWhile_append_of_pos hdigits, List.dropWhile_append_of_pos hdigits]
  simp [hexValue_toDigits, Char.ofNat_toNat]

theorem readEscape_short {e : Char} (he : e ≠ 'u') (rest : List Char) :
    readEscape ('\\' :: e :: rest) = some (shortMeaning e, rest) := by
  rw [readEscape]
  rintro _ rfl
  exact absurd rfl he

theorem readEscape_plain {c : Char} (hback : c ≠ '\\') (rest : List Char) :
    readEscape (c :: rest) = some (c, rest) := by
  rw [readEscape]
  · rintro _ rfl
    exact absurd rfl hback
  · rintro _ _ rfl
    exact absurd rfl hback

/-- **What a character is written as is read back as this character.** -/
theorem readEscape_escape (c : Char) (rest : List Char) :
    readEscape (escape c ++ rest) = some (c, rest) := by
  rcases escape_cases c with ⟨e, hc, he, hmeaning⟩ | ⟨hc, -, hback⟩ | hc
  · rw [hc, ← hmeaning]
    exact readEscape_short he rest
  · rw [hc]
    exact readEscape_plain hback rest
  · rw [hc]
    exact readEscape_byCode c rest

theorem escape_append_inj {c d : Char} {r r' : List Char}
    (h : escape c ++ r = escape d ++ r') : c = d ∧ r = r' := by
  have hread := congrArg readEscape h
  rw [readEscape_escape, readEscape_escape] at hread
  simpa using hread

/-- A closing quote is not taken for a character of the text. -/
theorem escape_append_ne_quote (c : Char) (r r' : List Char) :
    escape c ++ r ≠ '"' :: r' := by
  rcases escape_cases c with ⟨e, hc, -, -⟩ | ⟨hc, hquote, -⟩ | hc
  · simp [hc]
  · simp [hc, hquote]
  · simp [hc, byCode]

theorem escapes_append_inj {cs ds r r' : List Char}
    (h : cs.flatMap escape ++ '"' :: r = ds.flatMap escape ++ '"' :: r') :
    cs = ds ∧ r = r' := by
  induction cs generalizing ds with
  | nil =>
    cases ds with
    | nil => exact ⟨rfl, List.tail_eq_of_cons_eq h⟩
    | cons d ds =>
      rw [List.flatMap_cons, List.append_assoc] at h
      exact absurd h.symm (escape_append_ne_quote d _ r)
  | cons c cs ih =>
    rw [List.flatMap_cons, List.append_assoc] at h
    cases ds with
    | nil => exact absurd h (escape_append_ne_quote c _ r')
    | cons d ds =>
      rw [List.flatMap_cons, List.append_assoc] at h
      obtain ⟨rfl, hrest⟩ := escape_append_inj h
      obtain ⟨rfl, hr⟩ := ih hrest
      exact ⟨rfl, hr⟩

/-- **A quoted text shows where it ends.** -/
theorem encode_append_inj {cs ds r r' : List Char}
    (h : encode cs ++ r = encode ds ++ r') : cs = ds ∧ r = r' := by
  rw [encode, encode, List.cons_append, List.cons_append, List.append_assoc,
    List.append_assoc] at h
  exact escapes_append_inj (List.tail_eq_of_cons_eq h)

end PageWatch.Text.Quoted

namespace PageWatch.Pattern

open PageWatch.Text

/-! ## 3. Trees -/

theorem name_append_inj {k k' : LeafKind} {r r' : List Char}
    (h : k.name.toList ++ r = k'.name.toList ++ r') : k = k' ∧ r = r' := by
  revert h
  cases k <;> cases k' <;> simp [LeafKind.name]

theorem word_append_inj {op op' : Operator} {r r' : List Char}
    (h : op.word.toList ++ r = op'.word.toList ++ r') : op = op' ∧ r = r' := by
  revert h
  cases op <;> cases op' <;> simp [Operator.word]

theorem name_append_ne_word (k : LeafKind) (op : Operator) (r r' : List Char) :
    k.name.toList ++ r ≠ op.word.toList ++ r' := by
  cases k <;> cases op <;> simp [LeafKind.name, Operator.word]

theorem display_leaf (l : Leaf) (r : List Char) :
    (Expression.leaf l).display.toList ++ r =
      l.kind.name.toList ++ ':' :: (Quoted.encode l.pattern.toList ++ r) := by
  have hquote : (Quoted.quote l.pattern).toList = Quoted.encode l.pattern.toList :=
    String.toList_ofList
  rw [Expression.display, String.toList_append, String.toList_append, hquote, List.append_assoc,
    List.append_assoc]
  rfl

theorem display_compound (op : Operator) (es : List Expression) (r : List Char) :
    (Expression.compound op es).display.toList ++ r =
      op.word.toList ++ '(' :: ((Expression.displayAll es).toList ++ ')' :: r) := by
  rw [Expression.display, String.toList_append, String.toList_append, String.toList_append,
    List.append_assoc, List.append_assoc, List.append_assoc]
  rfl

theorem displayMore_cons (e : Expression) (es : List Expression) (r : List Char) :
    (Expression.displayMore (e :: es)).toList ++ r =
      ',' :: ' ' :: (e.display.toList ++ ((Expression.displayMore es).toList ++ r)) := by
  rw [Expression.displayMore, String.toList_append, String.toList_append, List.append_assoc,
    List.append_assoc]
  rfl

theorem displayAll_cons (e : Expression) (es : List Expression) (r : List Char) :
    (Expression.displayAll (e :: es)).toList ++ r =
      e.display.toList ++ ((Expression.displayMore es).toList ++ r) := by
  rw [Expression.displayAll, String.toList_append, List.append_assoc]

/-- The parenthesis that closes a compound is not taken for one more operand. -/
theorem display_append_ne_close (e : Expression) (r r' : List Char) :
    e.display.toList ++ r ≠ ')' :: r' := by
  cases e with
  | leaf l =>
    rw [display_leaf]
    cases l.kind <;> simp [LeafKind.name]
  | compound op es =>
    rw [display_compound]
    cases op <;> simp [Operator.word]

/-- **The shown form of `e` tells `e`, but for what it remembers, and where it ends.** -/
def Expression.Delimited (e : Expression) : Prop :=
  ∀ {f : Expression} {r r' : List Char}, e.display.toList ++ r = f.display.toList ++ r' →
    e.forget = f.forget ∧ r = r'

theorem delimited_leaf (l : Leaf) : (Expression.leaf l).Delimited := by
  intro f r r' h
  rw [display_leaf] at h
  cases f with
  | leaf l' =>
    rw [display_leaf] at h
    obtain ⟨hkind, hquoted⟩ := name_append_inj h
    obtain ⟨hpattern, hr⟩ := Quoted.encode_append_inj (List.tail_eq_of_cons_eq hquoted)
    rw [forget_leaf, forget_leaf, Leaf.forget, Leaf.forget, hkind, String.toList_inj.mp hpattern]
    exact ⟨rfl, hr⟩
  | compound op es =>
    rw [display_compound] at h
    exact absurd h (name_append_ne_word l.kind op _ _)

/-- Further operands are told one by one, up to the parenthesis that closes the compound. -/
theorem displayMore_append_inj {es fs : List Expression} (hes : ∀ e ∈ es, e.Delimited)
    {r r' : List Char} (h : (Expression.displayMore es).toList ++ ')' :: r =
      (Expression.displayMore fs).toList ++ ')' :: r') :
    es.map Expression.forget = fs.map Expression.forget ∧ r = r' := by
  induction es generalizing fs with
  | nil =>
    cases fs with
    | nil => exact ⟨rfl, List.tail_eq_of_cons_eq h⟩
    | cons f fs =>
      rw [displayMore_cons] at h
      cases h
  | cons e es ih =>
    rw [displayMore_cons] at h
    cases fs with
    | nil => cases h
    | cons f fs =>
      rw [displayMore_cons] at h
      obtain ⟨he, hes⟩ := List.forall_mem_cons.mp hes
      obtain ⟨hforget, hrest⟩ := he (List.tail_eq_of_cons_eq (List.tail_eq_of_cons_eq h))
      obtain ⟨hforgets, hr⟩ := ih hes hrest
      rw [List.map_cons, List.map_cons, hforget, hforgets]
      exact ⟨rfl, hr⟩

theorem displayAll_append_inj {es fs : List Expression} (hes : ∀ e ∈ es, e.Delimited)
    {r r' : List Char} (h : (Expression.displayAll es).toList ++ ')' :: r =
      (Expression.displayAll fs).toList ++ ')' :: r') :
    es.map Expression.forget = fs.map Expression.forget ∧ r = r' := by
  cases es with
  | nil =>
    cases fs with
    | nil => exact ⟨rfl, List.tail_eq_of_cons_eq h⟩
    | cons f fs =>
      rw [displayAll_cons] at h
      exact absurd h.symm (display_append_ne_close f _ r)
  | cons e es =>
    rw [displayAll_cons] at h
    cases fs with
    | nil => exact absurd h (display_append_ne_close e _ r')
    | cons f fs =>
      rw [displayAll_cons] at h
      obtain ⟨he, hes⟩ := List.forall_mem_cons.mp hes
      obtain ⟨hforget, hrest⟩ := he h
      obtain ⟨hforgets, hr⟩ := displayMore_append_inj hes hrest
      rw [List.map_cons, List.map_cons, hforget, hforgets]
      exact ⟨rfl, hr⟩

/-- **Every shown form can be told**, by induction on the tree. -/
theorem delimited (e : Expression) : e.Delimited := by
  induction e with
  | leaf l => exact delimited_leaf l
  | compound op es ih =>
    intro f r r' h
    rw [display_compound] at h
    cases f with
    | leaf l =>
      rw [display_leaf] at h
      exact absurd h.symm (name_append_ne_word l.kind op _ _)
    | compound op' fs =>
      rw [display_compound] at h
      obtain ⟨hop, hall⟩ := word_append_inj h
      obtain ⟨hforget, hr⟩ := displayAll_append_inj ih (List.tail_eq_of_cons_eq hall)
      rw [forget_compound, forget_compound, hop, hforget]
      exact ⟨rfl, hr⟩

/-- **The shown form is faithful.** Two expressions are the same if and only if they are shown in
    the same way, whatever their shapes and patterns are, and what their leaves remember counts on
    neither side. -/
theorem display_eq_iff (a b : Expression) :
    (a.display = b.display ↔ (a == b) = true) ∧
      a.forget.display = a.display ∧
      (a.forget == b) = (a == b) ∧ (a == b.forget) = (a == b) := by
  have hsame : ∀ x y : Expression, (x == y) = true ↔ x.forget = y.forget :=
    fun _ _ => same_iff_forget_eq
  refine ⟨⟨fun h => ?_, fun h => ?_⟩, display_forget a, ?_, ?_⟩
  · have htext : a.display.toList ++ [] = b.display.toList ++ [] := by rw [h]
    exact (hsame a b).mpr (delimited a htext).1
  · rw [← display_forget a, (hsame a b).mp h, display_forget]
  · rw [Bool.eq_iff_iff, hsame, hsame, forget_forget]
  · rw [Bool.eq_iff_iff, hsame, hsame, forget_forget]

end PageWatch.Pattern
