/-!
# Answers that may be errors

What `Except.map` does to an answer, said once: it changes the value and keeps the error. With
`Except.mapError` it is the other way round. `Except.isOk` tells whether there is a value.
-/

namespace PageWatch

variable {ε ε' α β γ : Type}

@[simp] theorem map_ok (f : α → β) (a : α) : Except.map f (.ok a : Except ε α) = .ok (f a) := rfl

@[simp] theorem map_error (f : α → β) (e : ε) :
    Except.map f (.error e : Except ε α) = .error e := rfl

@[simp] theorem isOk_ok (a : α) : (.ok a : Except ε α).isOk = true := rfl

@[simp] theorem isOk_error (e : ε) : (.error e : Except ε α).isOk = false := rfl

theorem map_eq_ok_iff {f : α → β} {x : Except ε α} {b : β} :
    x.map f = .ok b ↔ ∃ a, x = .ok a ∧ f a = b := by
  cases x with
  | error e => simp
  | ok a => simp

theorem map_eq_error_iff {f : α → β} {x : Except ε α} {e : ε} :
    x.map f = .error e ↔ x = .error e := by
  cases x with
  | error e => simp
  | ok a => simp

theorem map_map (g : β → γ) (f : α → β) (x : Except ε α) :
    (x.map f).map g = x.map fun a => g (f a) := by
  cases x with
  | error e => rfl
  | ok a => rfl

theorem map_nil_append (x : Except ε (List α)) : x.map ([] ++ ·) = x := by
  cases x with
  | error e => rfl
  | ok a => rfl

theorem map_nil_append_fst {δ : Type} (x : Except ε (List α × δ)) :
    (x.map fun (as, d) => ([] ++ as, d)) = x := by
  cases x with
  | error e => rfl
  | ok a => rfl

@[simp] theorem mapError_ok (f : ε → ε') (a : α) :
    Except.mapError f (.ok a : Except ε α) = .ok a := rfl

@[simp] theorem mapError_error (f : ε → ε') (e : ε) :
    Except.mapError f (.error e : Except ε α) = .error (f e) := rfl

theorem mapError_eq_ok_iff {f : ε → ε'} {x : Except ε α} {a : α} :
    x.mapError f = .ok a ↔ x = .ok a := by
  cases x with
  | error e => simp
  | ok b => simp

/-- Answers that agree on a part of their values agree if that part tells the value. -/
theorem mapError_eq_of_map {f : α → β} {g : ε → ε'} {x y : Except ε α}
    (h : (x.map f).mapError g = (y.map f).mapError g)
    (htells : ∀ a b, x = .ok a → y = .ok b → f a = f b → a = b) :
    x.mapError g = y.mapError g := by
  cases x with
  | error e =>
    cases y with
    | error e' => exact congrArg Except.error (Except.error.inj h)
    | ok b => cases h
  | ok a =>
    cases y with
    | error e' => cases h
    | ok b => rw [htells a b rfl rfl (Except.ok.inj h)]

theorem toOption_eq_some_iff {x : Except ε α} {a : α} : x.toOption = some a ↔ x = .ok a := by
  cases x with
  | error e => simp [Except.toOption]
  | ok b => simp [Except.toOption]

end PageWatch
