import PageWatch.Pattern.Token

/-!
# Parentheses that belong together

Which parentheses of a list of tokens close each other, apart from any way of reading the tokens:
`Balanced` tokens, in which all do, and `Matching`, the pair of one opening and one closing
parenthesis. Both ways of telling an open parenthesis rest on this module:

* in balanced tokens **every parenthesis that opens is closed** (`Balanced.exists_matching`);
* a parenthesis with nothing but balanced tokens behind it **is not closed at all**
  (`not_matching_of_balanced`).
-/

namespace PageWatch.Pattern

/-! ## 1. Balanced tokens -/

/-- The parentheses among the tokens close each other. -/
inductive Balanced : List Token → Prop
  | nil : Balanced []
  | other {t : Token} (h : t ≠ .opening) (h' : t ≠ .closing) : Balanced [t]
  | append {ts us : List Token} (h : Balanced ts) (h' : Balanced us) : Balanced (ts ++ us)
  | group {ts : List Token} (h : Balanced ts) : Balanced (.opening :: ts ++ [.closing])

theorem Balanced.leaf (raw : String) : Balanced [.leaf raw] := .other nofun nofun

theorem Balanced.operator (op : Operator) : Balanced [.operator op] := .other nofun nofun

/-- The parenthesis that opens at `j` is closed by the one at `m`. -/
def Matching (ts : List Token) (j m : Nat) : Prop :=
  ∃ before inside after, ts = before ++ .opening :: inside ++ .closing :: after ∧
    Balanced inside ∧ j = before.length ∧ m = before.length + 1 + inside.length

section Matching

variable {ts us : List Token} {j m : Nat}

/-- A parenthesis is closed behind the place where it opens, within the tokens. -/
theorem Matching.lt (h : Matching ts j m) : j < m ∧ m < ts.length := by
  obtain ⟨before, inside, after, rfl, -, rfl, rfl⟩ := h
  simp only [List.length_append, List.length_cons]
  omega

/-- Further tokens behind or in front do not part a pair. -/
theorem Matching.append_right (h : Matching ts j m) (us : List Token) :
    Matching (ts ++ us) j m := by
  obtain ⟨before, inside, after, rfl, hb, rfl, rfl⟩ := h
  exact ⟨before, inside, after ++ us, by simp, hb, rfl, rfl⟩

theorem Matching.append_left (h : Matching ts j m) (us : List Token) :
    Matching (us ++ ts) (us.length + j) (us.length + m) := by
  obtain ⟨before, inside, after, rfl, hb, rfl, rfl⟩ := h
  refine ⟨us ++ before, inside, after, by simp, hb, List.length_append.symm, ?_⟩
  rw [List.length_append]
  omega

/-- **Among balanced tokens every parenthesis that opens is closed.** -/
theorem Balanced.exists_matching (h : Balanced ts) (hj : ts[j]? = some .opening) :
    ∃ m, Matching ts j m := by
  induction h generalizing j with
  | nil => cases hj
  | @other t ht ht' =>
    cases j with
    | zero => exact absurd (Option.some.inj hj) ht
    | succ j => cases hj
  | @append ts us _ _ iht ihu =>
    by_cases hlt : j < ts.length
    · rw [List.getElem?_append_left hlt] at hj
      obtain ⟨m, hm⟩ := iht hj
      exact ⟨m, hm.append_right us⟩
    · have hle : ts.length ≤ j := by omega
      rw [List.getElem?_append_right hle] at hj
      obtain ⟨m, hm⟩ := ihu hj
      refine ⟨ts.length + m, ?_⟩
      have hshift := hm.append_left ts
      rwa [Nat.add_sub_cancel' hle] at hshift
  | @group ts h ih =>
    cases j with
    | zero => exact ⟨0 + 1 + ts.length, [], ts, [], by simp, h, rfl, rfl⟩
    | succ j =>
      rw [List.cons_append, List.getElem?_cons_succ] at hj
      rcases Nat.lt_or_ge j ts.length with hlt | hge
      · rw [List.getElem?_append_left hlt] at hj
        obtain ⟨m, hm⟩ := ih hj
        have hshift := (hm.append_right [.closing]).append_left [.opening]
        rw [List.length_singleton, Nat.add_comm 1 j] at hshift
        exact ⟨1 + m, hshift⟩
      · rw [List.getElem?_append_right hge] at hj
        rcases List.mem_singleton.mp (List.mem_of_getElem? hj)

end Matching

/-! ## 2. Counting -/

/-- As many parentheses open as close. -/
theorem Balanced.count_eq {ts : List Token} (h : Balanced ts) :
    ts.count .opening = ts.count .closing := by
  induction h with
  | nil => rfl
  | other h h' => simp [h, h']
  | append _ _ iht ihu => rw [List.count_append, List.count_append, iht, ihu]
  | group _ ih => simp [ih]

/-- In front of every place among balanced tokens, no more parentheses close than open. -/
theorem Balanced.count_le {ts us vs : List Token} (h : Balanced ts) (hts : ts = us ++ vs) :
    us.count .closing ≤ us.count .opening := by
  induction h generalizing us vs with
  | nil =>
    obtain ⟨rfl, -⟩ := List.append_eq_nil_iff.mp hts.symm
    exact Nat.le_refl _
  | @other t _ h' =>
    cases us with
    | nil => exact Nat.le_refl _
    | cons u us =>
      obtain ⟨rfl, htail⟩ := List.cons.inj hts
      obtain ⟨rfl, -⟩ := List.append_eq_nil_iff.mp htail.symm
      simp [h']
  | append ht _ iht ihu =>
    rcases List.append_eq_append_iff.mp hts with ⟨ws, rfl, hu⟩ | ⟨ws, ht', -⟩
    · have hrest := ihu hu
      rw [List.count_append, List.count_append, ht.count_eq]
      omega
    · exact iht ht'
  | @group ts h ih =>
    cases us with
    | nil => exact Nat.le_refl _
    | cons u us =>
      rw [List.cons_append, List.cons_append] at hts
      obtain ⟨rfl, htail⟩ := List.cons.inj hts
      -- The place is in front of the last parenthesis, or behind it.
      rcases List.append_eq_append_iff.mp htail with ⟨ws, rfl, hu⟩ | ⟨ws, hts', -⟩
      · have hends := congrArg (List.count .closing) hu
        rw [List.count_append, List.count_singleton_self] at hends
        rw [List.count_cons_of_ne (by decide), List.count_append, List.count_cons_self,
          List.count_append, h.count_eq]
        omega
      · have hinside := ih hts'
        rw [List.count_cons_self, List.count_cons_of_ne (by decide)]
        omega

/-- **With balanced tokens behind it, a parenthesis is not closed.** -/
theorem not_matching_of_balanced {us vs : List Token} (h : Balanced vs) (m : Nat) :
    ¬ Matching (us ++ .opening :: vs) us.length m := by
  rintro ⟨before, inside, after, hts, hb, hlen, -⟩
  rw [List.append_assoc, List.cons_append] at hts
  obtain ⟨-, htail⟩ := List.append_inj hts hlen
  obtain ⟨-, rfl⟩ := List.cons.inj htail
  have hcount := h.count_le (List.append_cons inside .closing after)
  rw [List.count_append, List.count_append, hb.count_eq, List.count_singleton_self] at hcount
  exact absurd hcount (Nat.not_succ_le_self _)

end PageWatch.Pattern
