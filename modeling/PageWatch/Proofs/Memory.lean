import PageWatch.Pattern.Outcome
import PageWatch.Proofs.Answer

/-!
# What leaves remember

Compiling ahead and evaluating change an expression in one way only: leaves come to remember their
compiled regular expressions. This module says once what that does:

* `Expression.induction`: induction on trees, over all operands of a compound at once;
* `same_iff_forget_eq`: two expressions are the same if they agree once nothing is remembered;
* `Expression.Faithful`: **what a leaf remembers is the compilation of its own pattern**. It is the
  invariant under which memories cannot be seen;
* `Expression.Learned`: one expression is another one with faithful memories, which is what
  `compile_learned` and `evaluate_learned` give;
* `compile_forget` and `evaluate_forget`: with faithful memories the result is the one of the
  expression that remembers nothing.
-/

namespace PageWatch.Pattern

/-! ## 1. Trees -/

/-- What holds of leaves, and of every compound whose operands it holds of, holds of every
    expression. -/
@[elab_as_elim, induction_eliminator]
theorem Expression.induction {motive : Expression → Prop} (leaf : ∀ l, motive (.leaf l))
    (compound : ∀ op es, (∀ e ∈ es, motive e) → motive (.compound op es)) (e : Expression) :
    motive e := by
  refine Expression.rec (motive_1 := motive) (motive_2 := fun es => ∀ e ∈ es, motive e) leaf
    compound ?_ ?_ e
  · intro e he
    cases he
  · intro e es he hes e' he'
    rcases List.mem_cons.mp he' with rfl | h
    · exact he
    · exact hes e' h

@[simp] theorem leaves_leaf (l : Leaf) : (Expression.leaf l).leaves = [l] := by
  rw [Expression.leaves]

@[simp] theorem leaves_compound (op : Operator) (es : List Expression) :
    (Expression.compound op es).leaves = es.flatMap Expression.leaves := by
  rw [Expression.leaves]
  induction es with
  | nil => rfl
  | cons e es ih => rw [Expression.leavesOfAll, ih, List.flatMap_cons]

@[simp] theorem forget_leaf (l : Leaf) : (Expression.leaf l).forget = .leaf l.forget := by
  rw [Expression.forget]

@[simp] theorem forget_compound (op : Operator) (es : List Expression) :
    (Expression.compound op es).forget = .compound op (es.map Expression.forget) := by
  rw [Expression.forget]
  congr 1
  induction es with
  | nil => rfl
  | cons e es ih => rw [Expression.forgetAll, ih, List.map_cons]

theorem leaves_forget (e : Expression) : e.forget.leaves = e.leaves.map Leaf.forget := by
  induction e with
  | leaf l => simp
  | compound op es ih =>
    rw [forget_compound, leaves_compound, leaves_compound, List.map_flatMap, List.flatMap_map,
      List.flatMap_def, List.flatMap_def, List.map_congr_left ih]

@[simp] theorem forget_forget (e : Expression) : e.forget.forget = e.forget := by
  induction e with
  | leaf l => simp [Leaf.forget]
  | compound op es ih =>
    simp only [forget_compound, List.map_map, Expression.compound.injEq, true_and]
    exact List.map_congr_left ih

/-! ## 2. Sameness -/

theorem leaf_same_iff {a b : Leaf} : a.same b = true ↔ a.forget = b.forget := by
  simp [Leaf.same, Leaf.forget]

/-- **The same trees are those that agree once nothing is remembered.** -/
theorem same_iff_forget_eq {a b : Expression} : a.same b = true ↔ a.forget = b.forget := by
  induction a generalizing b with
  | leaf l =>
    cases b with
    | leaf l' => simp [Expression.same, leaf_same_iff]
    | compound op es => simp [Expression.same]
  | compound op es ih =>
    cases b with
    | leaf l' => simp [Expression.same]
    | compound op' es' =>
      have hall : Expression.sameAll es es' = true ↔
          es.map Expression.forget = es'.map Expression.forget := by
        induction es generalizing es' with
        | nil => cases es' <;> simp [Expression.sameAll]
        | cons e es ihs =>
          cases es' with
          | nil => simp [Expression.sameAll]
          | cons e' es' =>
            have ihe : e.same e' = true ↔ e.forget = e'.forget := ih e List.mem_cons_self
            have ihes := ihs (fun x hx => ih x (List.mem_cons_of_mem e hx)) es'
            simp [Expression.sameAll, ihe, ihes]
      simp [Expression.same, hall]

/-! ## 3. Faithful memories -/

variable [Regex.Engine]

/-- What the leaf remembers, if anything, is the compilation of its own pattern. -/
def Leaf.Faithful (l : Leaf) : Prop := ∀ r, l.compiled = some r → compileRegex l.pattern = .ok r

/-- Every leaf of the expression is faithful. -/
def Expression.Faithful (e : Expression) : Prop := ∀ l ∈ e.leaves, l.Faithful

@[simp] theorem faithful_leaf {l : Leaf} : (Expression.leaf l).Faithful ↔ l.Faithful := by
  simp [Expression.Faithful]

@[simp] theorem faithful_compound {op : Operator} {es : List Expression} :
    (Expression.compound op es).Faithful ↔ ∀ e ∈ es, e.Faithful := by
  simp only [Expression.Faithful, leaves_compound, List.mem_flatMap]
  exact ⟨fun h e he l hl => h l ⟨e, he, hl⟩, fun h l ⟨e, he, hl⟩ => h e he l hl⟩

/-- Nothing remembered is faithful. -/
theorem faithful_of_forget_eq {e : Expression} (h : e.forget = e) : e.Faithful := by
  induction e with
  | leaf l =>
    intro l' hl' r hr
    have hl' : l' = l := by simpa using hl'
    have hl : l.compiled = none := by
      have h : l.forget = l := by simpa using h
      rw [← h]
      rfl
    rw [hl', hl] at hr
    cases hr
  | compound op es ih =>
    have h : es.map Expression.forget = es := by simpa using h
    refine faithful_compound.mpr fun e he => ih e he ?_
    exact List.map_inj_left.mp (h.trans (List.map_id es).symm) e he

/-- `e'` is `e`, with faithful memories. -/
structure Expression.Learned (e e' : Expression) : Prop where
  forget_eq : e'.forget = e.forget
  faithful : e'.Faithful

/-- The memory of a faithful leaf saves work and changes nothing. -/
theorem regex_eq_compileRegex {l : Leaf} (h : l.Faithful) : l.regex = compileRegex l.pattern := by
  unfold Leaf.regex
  split
  · next r hr => exact (h r hr).symm
  · rfl

theorem regex_forget {l : Leaf} (h : l.Faithful) : l.forget.regex = l.regex := by
  rw [regex_eq_compileRegex h]
  rfl

theorem remember_learned {l : Leaf} (h : l.Faithful) :
    l.remember.forget = l.forget ∧ l.remember.Faithful := by
  unfold Leaf.remember
  split
  · next r hr =>
    refine ⟨rfl, fun r' hr' => ?_⟩
    have hr' : r = r' := Option.some.inj hr'
    rw [← hr', ← regex_eq_compileRegex h]
    exact hr
  · exact ⟨rfl, h⟩

theorem leafCompile_learned {l : Leaf} (h : l.Faithful) :
    l.compile.2.forget = l.forget ∧ l.compile.2.Faithful := by
  unfold Leaf.compile
  split
  · exact ⟨rfl, h⟩
  · exact remember_learned h

theorem leafCompile_forget {l : Leaf} (h : l.Faithful) : l.forget.compile.1 = l.compile.1 := by
  have hr := regex_forget h
  have hk : l.forget.kind = l.kind := rfl
  unfold Leaf.compile
  rw [hk]
  split
  · rfl
  · rw [hr]

/-- The trees of `es'` are those of `es`, with faithful memories. -/
structure LearnedAll (es es' : List Expression) : Prop where
  forget_eq : es'.map Expression.forget = es.map Expression.forget
  faithful : ∀ e ∈ es', e.Faithful

theorem LearnedAll.nil : LearnedAll [] [] := ⟨rfl, by simp⟩

theorem LearnedAll.cons {e e' : Expression} {es es' : List Expression} (h : e.Learned e')
    (hs : LearnedAll es es') : LearnedAll (e :: es) (e' :: es') where
  forget_eq := by rw [List.map_cons, List.map_cons, h.forget_eq, hs.forget_eq]
  faithful := List.forall_mem_cons.mpr ⟨h.faithful, hs.faithful⟩

theorem LearnedAll.refl {es : List Expression} (h : ∀ e ∈ es, e.Faithful) : LearnedAll es es :=
  ⟨rfl, h⟩

theorem LearnedAll.compound {op : Operator} {es es' : List Expression} (h : LearnedAll es es') :
    (Expression.compound op es).Learned (.compound op es') where
  forget_eq := by rw [forget_compound, forget_compound, h.forget_eq]
  faithful := faithful_compound.mpr h.faithful

/-! ## 4. Compiling ahead -/

theorem compile_compound (op : Operator) (es : List Expression) :
    (Expression.compound op es).compile =
      ((Expression.compileAll es).1, .compound op (Expression.compileAll es).2) := by
  rw [Expression.compile]

theorem compileAll_cons_of_ok {e e' : Expression} {es : List Expression}
    (h : e.compile = (.ok (), e')) :
    Expression.compileAll (e :: es) =
      ((Expression.compileAll es).1, e' :: (Expression.compileAll es).2) := by
  rw [Expression.compileAll, h]

theorem compileAll_cons_of_error {e e' : Expression} {es : List Expression} {err : RegexError}
    (h : e.compile = (.error err, e')) :
    Expression.compileAll (e :: es) = (.error err, e' :: es) := by
  rw [Expression.compileAll, h]

/-- Over operands, compiling agrees with compiling what remembers nothing, if it does on each. -/
theorem compileAll_agrees {es : List Expression} (hf : ∀ e ∈ es, e.Faithful)
    (h : ∀ e ∈ es, e.forget.compile.1 = e.compile.1 ∧ e.Learned e.compile.2) :
    (Expression.compileAll (es.map Expression.forget)).1 = (Expression.compileAll es).1 ∧
      LearnedAll es (Expression.compileAll es).2 := by
  induction es with
  | nil => exact ⟨rfl, .nil⟩
  | cons e es ih =>
    obtain ⟨hfe, hfes⟩ := List.forall_mem_cons.mp hf
    obtain ⟨⟨hr, hl⟩, hes⟩ := List.forall_mem_cons.mp h
    obtain ⟨ihr, ihl⟩ := ih hfes hes
    rw [List.map_cons]
    cases hc : e.compile with
    | mk result e' =>
      rw [hc] at hr hl
      cases result with
      | ok u =>
        have hc' : e.forget.compile = (.ok (), e.forget.compile.2) := Prod.ext hr rfl
        rw [compileAll_cons_of_ok hc', compileAll_cons_of_ok hc]
        exact ⟨ihr, .cons hl ihl⟩
      | error err =>
        have hc' : e.forget.compile = (.error err, e.forget.compile.2) := Prod.ext hr rfl
        rw [compileAll_cons_of_error hc', compileAll_cons_of_error hc]
        exact ⟨rfl, .cons hl (.refl hfes)⟩

theorem compile_agrees {e : Expression} (h : e.Faithful) :
    e.forget.compile.1 = e.compile.1 ∧ e.Learned e.compile.2 := by
  induction e with
  | leaf l =>
    have h : l.Faithful := by simpa using h
    rw [forget_leaf, Expression.compile, Expression.compile]
    refine ⟨leafCompile_forget h, ?_, ?_⟩
    · rw [forget_leaf, forget_leaf, (leafCompile_learned h).1]
    · exact faithful_leaf.mpr (leafCompile_learned h).2
  | compound op es ih =>
    have h : ∀ e ∈ es, e.Faithful := faithful_compound.mp h
    obtain ⟨hr, hl⟩ := compileAll_agrees h fun e he => ih e he (h e he)
    rw [forget_compound, compile_compound, compile_compound]
    exact ⟨hr, hl.compound⟩

/-- **With faithful memories, compiling ahead ends as it does when nothing is remembered.** -/
theorem compile_forget {e : Expression} (h : e.Faithful) : e.forget.compile.1 = e.compile.1 :=
  (compile_agrees h).1

theorem compile_learned {e : Expression} (h : e.Faithful) : e.Learned e.compile.2 :=
  (compile_agrees h).2

/-- If the leaf is a regular expression, it can be compiled. -/
def Leaf.Compiles (l : Leaf) : Prop :=
  l.kind = .regex → (Regex.Engine.compile l.pattern).isOk = true

theorem leafCompile_eq_ok_iff {l : Leaf} (h : l.Faithful) : l.compile.1 = .ok () ↔ l.Compiles := by
  unfold Leaf.compile Leaf.Compiles
  rw [regex_eq_compileRegex h]
  cases l.kind with
  | string => simp
  | regex =>
    unfold compileRegex
    cases Regex.Engine.compile l.pattern with
    | error reason => simp
    | ok r => simp

theorem compileAll_eq_ok_iff (es : List Expression) :
    (Expression.compileAll es).1 = .ok () ↔ ∀ e ∈ es, e.compile.1 = .ok () := by
  induction es with
  | nil => simp [Expression.compileAll]
  | cons e es ih =>
    rw [List.forall_mem_cons, ← ih]
    cases hc : e.compile with
    | mk result e' =>
      cases result with
      | ok u => simp [compileAll_cons_of_ok hc]
      | error err => simp [compileAll_cons_of_error hc]

/-- **Compiling ahead succeeds if every regular expression can be compiled.** -/
theorem compile_eq_ok_iff {e : Expression} (h : e.Faithful) :
    e.compile.1 = .ok () ↔ ∀ l ∈ e.leaves, l.Compiles := by
  induction e with
  | leaf l =>
    rw [Expression.compile, leaves_leaf, List.forall_mem_singleton]
    exact leafCompile_eq_ok_iff (faithful_leaf.mp h)
  | compound op es ih =>
    have h : ∀ e ∈ es, e.Faithful := faithful_compound.mp h
    rw [compile_compound, compileAll_eq_ok_iff, leaves_compound, List.forall_mem_flatMap]
    exact forall₂_congr fun e he => ih e he (h e he)

/-! ## 5. Evaluating -/

theorem leafEvaluate_forget {l : Leaf} (h : l.Faithful) (content : String) :
    (l.forget.evaluate content).1 = (l.evaluate content).1 := by
  have hm : l.forget.matched content = l.matched content := by
    unfold Leaf.matched
    rw [regex_forget h]
    rfl
  rw [Leaf.evaluate, Leaf.evaluate, hm]

theorem evaluate_cons (content : String) (op : Operator) (e : Expression) (es : List Expression) :
    (Expression.compound op (e :: es)).evaluate content =
      ((Expression.evaluateAll content 1 (e :: es)).1.map fun (vs, ms) => ⟨op.verdict vs, ms⟩,
        .compound op (Expression.evaluateAll content 1 (e :: es)).2) := by
  rw [Expression.evaluate]

theorem evaluateAll_cons_of_ok {content : String} {index : Nat} {e e' : Expression}
    {es : List Expression} {o : Outcome} (h : e.evaluate content = (.ok o, e')) :
    Expression.evaluateAll content index (e :: es) =
      ((Expression.evaluateAll content (index + 1) es).1.map fun (vs, ms) =>
          (o.found :: vs, o.matched ++ ms),
        e' :: (Expression.evaluateAll content (index + 1) es).2) := by
  rw [Expression.evaluateAll, h]

theorem evaluateAll_cons_of_error {content : String} {index : Nat} {e e' : Expression}
    {es : List Expression} {err : EvalError} (h : e.evaluate content = (.error err, e')) :
    Expression.evaluateAll content index (e :: es) = (.error (.child index err), e' :: es) := by
  rw [Expression.evaluateAll, h]

/-- Over operands, evaluating agrees with evaluating what remembers nothing, if it does on each. -/
theorem evaluateAll_agrees {content : String} {es : List Expression}
    (hf : ∀ e ∈ es, e.Faithful)
    (h : ∀ e ∈ es, (e.forget.evaluate content).1 = (e.evaluate content).1 ∧
      e.Learned (e.evaluate content).2) (index : Nat) :
    (Expression.evaluateAll content index (es.map Expression.forget)).1 =
        (Expression.evaluateAll content index es).1 ∧
      LearnedAll es (Expression.evaluateAll content index es).2 := by
  induction es generalizing index with
  | nil => exact ⟨rfl, .nil⟩
  | cons e es ih =>
    obtain ⟨hfe, hfes⟩ := List.forall_mem_cons.mp hf
    obtain ⟨⟨hr, hl⟩, hes⟩ := List.forall_mem_cons.mp h
    obtain ⟨ihr, ihl⟩ := ih hfes hes (index + 1)
    rw [List.map_cons]
    cases hc : e.evaluate content with
    | mk result e' =>
      rw [hc] at hr hl
      cases result with
      | ok o =>
        have hc' : e.forget.evaluate content = (.ok o, (e.forget.evaluate content).2) :=
          Prod.ext hr rfl
        rw [evaluateAll_cons_of_ok hc', evaluateAll_cons_of_ok hc, ihr]
        exact ⟨rfl, .cons hl ihl⟩
      | error err =>
        have hc' : e.forget.evaluate content = (.error err, (e.forget.evaluate content).2) :=
          Prod.ext hr rfl
        rw [evaluateAll_cons_of_error hc', evaluateAll_cons_of_error hc]
        exact ⟨rfl, .cons hl (.refl hfes)⟩

theorem evaluate_agrees {e : Expression} (h : e.Faithful) (content : String) :
    (e.forget.evaluate content).1 = (e.evaluate content).1 ∧ e.Learned (e.evaluate content).2 := by
  induction e with
  | leaf l =>
    have h : l.Faithful := by simpa using h
    rw [forget_leaf, Expression.evaluate, Expression.evaluate]
    refine ⟨leafEvaluate_forget h content, ?_, ?_⟩
    · rw [forget_leaf, forget_leaf]
      exact congrArg _ (leafCompile_learned h).1
    · exact faithful_leaf.mpr (leafCompile_learned h).2
  | compound op es ih =>
    have h : ∀ e ∈ es, e.Faithful := faithful_compound.mp h
    obtain ⟨hr, hl⟩ := evaluateAll_agrees h (fun e he => ih e he (h e he)) 1
    cases es with
    | nil =>
      rw [forget_compound, List.map_nil, Expression.evaluate]
      exact ⟨rfl, (LearnedAll.refl h).compound⟩
    | cons e es =>
      rw [forget_compound, List.map_cons, evaluate_cons, evaluate_cons, ← List.map_cons, hr]
      exact ⟨rfl, hl.compound⟩

/-- **With faithful memories, an expression has the outcome it has when nothing is remembered.** -/
theorem evaluate_forget {e : Expression} (h : e.Faithful) (content : String) :
    (e.forget.evaluate content).1 = (e.evaluate content).1 :=
  (evaluate_agrees h content).1

theorem evaluate_learned {e : Expression} (h : e.Faithful) (content : String) :
    e.Learned (e.evaluate content).2 :=
  (evaluate_agrees h content).2

end PageWatch.Pattern
