import PageWatch.Proofs.Written

/-!
# Faults of expressions

An expression has two kinds of faults: a leaf whose regular expression cannot be compiled, and an
operator without operands. They are described here without looking at any text:

* `Leaf.fault?` and `Expression.firstBadRegex?`: the error of a leaf, and of the first leaf from
  left to right that has one;
* `Expression.fault?`: the error at the first fault of either kind, with the way to it.

Main statements: **evaluating fails with `fault?` on every text** (`evaluate_eq_error_iff`),
compiling ahead fails with `firstBadRegex?` (`compile_eq_error_iff`), and the two are about the
same leaf wherever every operator has operands (`cause_of_fault?`). Every expression that was read
is of that kind (`populated_of_parse`).
-/

namespace PageWatch.Pattern

section Engine

variable [Regex.Engine]

/-! ## 1. Leaves -/

/-- The error of a leaf whose regular expression cannot be compiled. -/
def Leaf.fault? (l : Leaf) : Option RegexError :=
  match l.kind with
  | .string => none
  | .regex =>
    match compileRegex l.pattern with
    | .ok _ => none
    | .error x => some x

section Leaves

variable {l : Leaf} {x : RegexError} {content : String}

theorem leafFault?_eq_some_iff :
    l.fault? = some x ↔ l.kind = .regex ∧ compileRegex l.pattern = .error x := by
  unfold Leaf.fault?
  cases l.kind with
  | string => simp
  | regex => cases compileRegex l.pattern <;> simp

theorem leafFault?_eq_none_iff : l.fault? = none ↔ l.Compiles := by
  unfold Leaf.fault? Leaf.Compiles compileRegex
  cases l.kind with
  | string => simp
  | regex => cases Regex.Engine.compile l.pattern <;> simp

theorem leafCompile_eq_error_iff (h : l.Faithful) : l.compile.1 = .error x ↔ l.fault? = some x := by
  unfold Leaf.compile Leaf.fault?
  rw [regex_eq_compileRegex h]
  cases l.kind with
  | string => simp
  | regex => cases compileRegex l.pattern <;> simp

theorem leafEvaluate_eq_error_iff (h : l.Faithful) {err : EvalError} :
    (l.evaluate content).1 = .error err ↔ l.fault?.map .badRegex = some err := by
  unfold Leaf.evaluate Leaf.matched Leaf.fault?
  rw [regex_eq_compileRegex h]
  cases l.kind with
  | string => simp
  | regex => cases compileRegex l.pattern <;> simp

end Leaves

/-! ## 2. The first leaf that cannot be compiled -/

/-- The error of the first leaf, from left to right, that cannot be compiled. -/
def Expression.firstBadRegex? (e : Expression) : Option RegexError :=
  e.leaves.findSome? Leaf.fault?

theorem firstBadRegex?_leaf (l : Leaf) : (Expression.leaf l).firstBadRegex? = l.fault? := by
  rw [Expression.firstBadRegex?, leaves_leaf, List.findSome?_singleton]

theorem firstBadRegex?_compound (op : Operator) (es : List Expression) :
    (Expression.compound op es).firstBadRegex? = es.findSome? Expression.firstBadRegex? := by
  rw [Expression.firstBadRegex?, leaves_compound]
  induction es with
  | nil => rfl
  | cons e es ih =>
    rw [List.flatMap_cons, List.findSome?_append, ih, List.findSome?_cons]
    show e.firstBadRegex?.or _ = _
    cases e.firstBadRegex? <;> rfl

theorem firstBadRegex?_eq_none_iff {e : Expression} :
    e.firstBadRegex? = none ↔ ∀ l ∈ e.leaves, l.Compiles := by
  rw [Expression.firstBadRegex?, List.findSome?_eq_none_iff]
  simp only [leafFault?_eq_none_iff]

/-- **The first such leaf**: all leaves before it can be compiled. -/
theorem firstBadRegex?_eq_some_iff {e : Expression} {x : RegexError} :
    e.firstBadRegex? = some x ↔ ∃ before l after, e.leaves = before ++ l :: after ∧
      (l.kind = .regex ∧ compileRegex l.pattern = .error x) ∧ ∀ l' ∈ before, l'.Compiles := by
  rw [Expression.firstBadRegex?, List.findSome?_eq_some_iff]
  simp only [leafFault?_eq_some_iff, leafFault?_eq_none_iff]

/-- What leaves remember is no part of their faults. -/
theorem firstBadRegex?_forget (e : Expression) : e.forget.firstBadRegex? = e.firstBadRegex? := by
  rw [Expression.firstBadRegex?, leaves_forget, List.findSome?_map]
  rfl

theorem compileAll_eq_error_iff {es : List Expression} {x : RegexError}
    (h : ∀ e ∈ es, e.compile.1 = .error x ↔ e.firstBadRegex? = some x)
    (hok : ∀ e ∈ es, e.compile.1 = .ok () ↔ e.firstBadRegex? = none) :
    (Expression.compileAll es).1 = .error x ↔
      es.findSome? Expression.firstBadRegex? = some x := by
  induction es with
  | nil => simp [Expression.compileAll]
  | cons e es ih =>
    obtain ⟨he, hes⟩ := List.forall_mem_cons.mp h
    obtain ⟨hoke, hokes⟩ := List.forall_mem_cons.mp hok
    rw [List.findSome?_cons]
    cases hc : e.compile with
    | mk result e' =>
      rw [hc] at he hoke
      cases result with
      | ok u =>
        rw [compileAll_cons_of_ok hc, hoke.mp rfl]
        exact ih hes hokes
      | error err =>
        rw [compileAll_cons_of_error hc]
        cases hb : e.firstBadRegex? with
        | none => cases hoke.mpr hb
        | some y => simpa [hb] using he

/-- **Compiling ahead fails with the error of the first leaf that cannot be compiled.** -/
theorem compile_eq_error_iff {e : Expression} {x : RegexError} (h : e.Faithful) :
    e.compile.1 = .error x ↔ e.firstBadRegex? = some x := by
  induction e with
  | leaf l =>
    rw [Expression.compile, firstBadRegex?_leaf]
    exact leafCompile_eq_error_iff (faithful_leaf.mp h)
  | compound op es ih =>
    have h : ∀ e ∈ es, e.Faithful := faithful_compound.mp h
    rw [compile_compound, firstBadRegex?_compound]
    refine compileAll_eq_error_iff (fun e he => ih e he (h e he)) fun e he => ?_
    rw [compile_eq_ok_iff (h e he), firstBadRegex?_eq_none_iff]

/-! ## 3. The first fault of either kind -/

mutual

/-- The error at the first fault of an expression, with the way to it. -/
def Expression.fault? : Expression → Option EvalError
  | .leaf l => l.fault?.map .badRegex
  | .compound op [] => some (.emptyCompound op)
  | .compound _ (e :: es) => Expression.faultOfAll? 1 (e :: es)

/-- The error at the first fault of operands. `index` is the position of the first operand. -/
def Expression.faultOfAll? (index : Nat) : List Expression → Option EvalError
  | [] => none
  | e :: es =>
    match e.fault? with
    | some err => some (.child index err)
    | none => Expression.faultOfAll? (index + 1) es

end

theorem evaluateAll_eq_error_iff {content : String} {es : List Expression} {err : EvalError}
    (h : ∀ e ∈ es, ∀ err, (e.evaluate content).1 = .error err ↔ e.fault? = some err)
    (index : Nat) :
    (Expression.evaluateAll content index es).1 = .error err ↔
      Expression.faultOfAll? index es = some err := by
  induction es generalizing index with
  | nil => simp [Expression.evaluateAll, Expression.faultOfAll?]
  | cons e es ih =>
    obtain ⟨he, hes⟩ := List.forall_mem_cons.mp h
    have ih := ih hes (index + 1)
    rw [Expression.faultOfAll?]
    cases hc : e.evaluate content with
    | mk result e' =>
      rw [hc] at he
      cases result with
      | ok o =>
        have hnone : e.fault? = none := by
          cases hf : e.fault? with
          | none => rfl
          | some err' => cases (he err').mpr hf
        rw [evaluateAll_cons_of_ok hc, hnone, ← ih]
        cases (Expression.evaluateAll content (index + 1) es).1 <;> simp
      | error err' =>
        rw [evaluateAll_cons_of_error hc, (he err').mp rfl]
        simp

/-- **Evaluating fails at the first fault, on every text alike.** -/
theorem evaluate_eq_error_iff {e : Expression} (h : e.Faithful) (content : String)
    {err : EvalError} : (e.evaluate content).1 = .error err ↔ e.fault? = some err := by
  induction e generalizing err with
  | leaf l =>
    rw [Expression.evaluate, Expression.fault?]
    exact leafEvaluate_eq_error_iff (faithful_leaf.mp h)
  | compound op es ih =>
    have h : ∀ e ∈ es, e.Faithful := faithful_compound.mp h
    cases es with
    | nil => simp [Expression.evaluate, Expression.fault?]
    | cons e es =>
      rw [evaluate_cons, Expression.fault?,
        ← evaluateAll_eq_error_iff (fun e he err => ih e he (h e he)) 1]
      cases (Expression.evaluateAll content 1 (e :: es)).1 <;> simp

end Engine

/-! ## 4. Operators with operands -/

/-- Every operator has an operand. -/
inductive Expression.Populated : Expression → Prop
  | leaf (l : Leaf) : Populated (.leaf l)
  | compound {op : Operator} {es : List Expression} (hes : es ≠ [])
      (h : ∀ e ∈ es, e.Populated) : Populated (.compound op es)

theorem populated_compound {op : Operator} {es : List Expression} :
    (Expression.compound op es).Populated ↔ es ≠ [] ∧ ∀ e ∈ es, e.Populated := by
  constructor
  · rintro (_ | ⟨hes, h⟩)
    exact ⟨hes, h⟩
  · rintro ⟨hes, h⟩
    exact .compound hes h

theorem populated_forget {e : Expression} : e.forget.Populated ↔ e.Populated := by
  induction e with
  | leaf l => exact ⟨fun _ => .leaf l, fun _ => forget_leaf l ▸ .leaf l.forget⟩
  | compound op es ih =>
    rw [forget_compound, populated_compound, populated_compound, List.forall_mem_map, ne_eq,
      List.map_eq_nil_iff]
    exact and_congr_right fun _ => forall₂_congr ih

theorem Expression.WellShaped.populated {e : Expression} (h : e.WellShaped) : e.Populated := by
  induction h with
  | leaf h => exact .leaf _
  | compound hes _ ih =>
    refine .compound ?_ ih
    rintro rfl
    simp at hes

theorem Expression.Populated.rooted {e : Expression} (h : e.Populated) : e.rooted.Populated := by
  cases h with
  | leaf l => exact .compound (by simp) (by simpa using .leaf l)
  | compound hes h => exact .compound hes h

variable [Regex.Engine]

/-- **In every expression that was read, every operator has an operand.** -/
theorem populated_of_parse {s : String} {rules : Rules} {e : Expression}
    (h : parse s rules = .ok e) : e.Populated := by
  obtain ⟨t, ht, -, -, hforget⟩ := exists_tree_of_parse h
  rw [← populated_forget, hforget]
  exact ht.shaped.populated.rooted

theorem cause_of_faultOfAll? {es : List Expression}
    (h : ∀ e ∈ es, e.fault?.map EvalError.cause = e.firstBadRegex?.map .badRegex) (index : Nat) :
    (Expression.faultOfAll? index es).map EvalError.cause =
      (es.findSome? Expression.firstBadRegex?).map .badRegex := by
  induction es generalizing index with
  | nil => rfl
  | cons e es ih =>
    obtain ⟨he, hes⟩ := List.forall_mem_cons.mp h
    rw [Expression.faultOfAll?, List.findSome?_cons]
    cases hf : e.fault? with
    | none =>
      rw [hf, Option.map_none] at he
      rw [Option.map_eq_none_iff.mp he.symm]
      exact ih hes (index + 1)
    | some err =>
      rw [hf, Option.map_some] at he
      obtain ⟨x, hb, hx⟩ := Option.map_eq_some_iff.mp he.symm
      rw [hb, Option.map_some, Option.map_some, EvalError.cause, hx]

/-- **Where every operator has operands, both walks fail at the same leaf.** -/
theorem cause_of_fault? {e : Expression} (h : e.Populated) :
    e.fault?.map EvalError.cause = e.firstBadRegex?.map .badRegex := by
  induction h with
  | leaf l =>
    rw [Expression.fault?, firstBadRegex?_leaf]
    cases l.fault? <;> rfl
  | @compound op es hes _ ih =>
    rw [firstBadRegex?_compound]
    match es with
    | [] => exact absurd rfl hes
    | e :: es =>
      rw [Expression.fault?]
      exact cause_of_faultOfAll? ih 1

/-- What leaves come to remember changes neither the operands nor the faults. -/
theorem Expression.Learned.populated {e e' : Expression} (h : e.Learned e') (hp : e.Populated) :
    e'.Populated := by
  rw [← populated_forget, h.forget_eq, populated_forget]
  exact hp

theorem Expression.Learned.compiles {e e' : Expression} (h : e.Learned e')
    (hc : ∀ l ∈ e.leaves, l.Compiles) : ∀ l ∈ e'.leaves, l.Compiles := by
  rw [← firstBadRegex?_eq_none_iff] at hc ⊢
  rw [← firstBadRegex?_forget, h.forget_eq, firstBadRegex?_forget, hc]

/-- What was compiled ahead has no fault left. -/
theorem Rules.Readies.compiles {rules : Rules} {t e : Expression} (ht : t.Faithful)
    (hahead : rules.compileAhead = true) (h : rules.Readies t e) : ∀ l ∈ e.leaves, l.Compiles := by
  have hl := h.learned ht
  rw [Rules.Readies, if_pos hahead] at h
  exact hl.compiles ((compile_eq_ok_iff ht).mp (congrArg Prod.fst h))

theorem compiles_of_parse {s : String} {rules : Rules} {e : Expression}
    (hahead : rules.compileAhead = true) (h : parse s rules = .ok e) :
    ∀ l ∈ e.leaves, l.Compiles := by
  obtain ⟨t, ht, hr, -, -⟩ := exists_tree_of_parse h
  have hf : t.rooted.forget = t.rooted := by rw [forget_rooted, ht.forget_eq]
  exact hr.compiles (faithful_of_forget_eq hf) hahead

section Evaluating

variable {e : Expression} {content : String}

/-- **Without a fault there is an outcome.** -/
theorem exists_outcome (hf : e.Faithful) (hp : e.Populated) (hc : ∀ l ∈ e.leaves, l.Compiles)
    (content : String) : ∃ o, (e.evaluate content).1 = .ok o := by
  cases hr : (e.evaluate content).1 with
  | ok o => exact ⟨o, rfl⟩
  | error err =>
    have hfault := (evaluate_eq_error_iff hf content).mp hr
    have hcause := cause_of_fault? hp
    rw [hfault, firstBadRegex?_eq_none_iff.mpr hc] at hcause
    cases hcause

/-- **The cause of an error is the first leaf that cannot be compiled.** -/
theorem evaluate_of_firstBadRegex? (hf : e.Faithful) (hp : e.Populated) {x : RegexError}
    (hx : e.firstBadRegex? = some x) (content : String) :
    ∃ err, (e.evaluate content).1 = .error err ∧ err.cause = .badRegex x := by
  have hcause := cause_of_fault? hp
  rw [hx, Option.map_some, Option.map_eq_some_iff] at hcause
  obtain ⟨err, hfault, hcause⟩ := hcause
  exact ⟨err, (evaluate_eq_error_iff hf content).mpr hfault, hcause⟩

theorem cause_of_evaluate (hf : e.Faithful) (hp : e.Populated) {err : EvalError}
    (h : (e.evaluate content).1 = .error err) : ∃ x, err.cause = .badRegex x := by
  have hcause := cause_of_fault? hp
  rw [(evaluate_eq_error_iff hf content).mp h, Option.map_some, eq_comm,
    Option.map_eq_some_iff] at hcause
  obtain ⟨x, -, hx⟩ := hcause
  exact ⟨x, hx.symm⟩

end Evaluating

end PageWatch.Pattern
