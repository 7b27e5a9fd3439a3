import Mathlib.Data.List.Forall2
import PageWatch.Proofs.Memory
import PageWatch.Regex.Basic

/-!
# Sessions with one expression

An expression is used again and again: it is compiled ahead, evaluated on one text after the other,
and put back to what it was at the start, in any order. Every step changes what leaves remember,
also a step that fails half-way.

* `Leaf.Arises`: how leaves come about, which is what makes every memory faithful
  (`arises_iff_faithful`);
* `Leaf.Gains`: **the one thing that a step does to a leaf**, if anything: a regular expression
  that can be compiled comes to be remembered. `compile_gains` and `evaluate_gains` are the step
  lemmas, `session_gains` is about runs of steps;
* `display_forget`: memories are not shown.

Main statement: **memories are invisible** (`session_eq_fresh`).
-/

namespace PageWatch.Pattern

/-! ## 1. How leaves come about -/

section Engine

variable [Regex.Engine]

/-- The leaf is new, or it was new and has been asked for its regular expression. -/
def Leaf.Arises (l : Leaf) : Prop := l = l.forget ∨ l = l.forget.remember

theorem faithful_forget (l : Leaf) : l.forget.Faithful := nofun

/-- **The leaves that come about are the faithful ones.** -/
theorem arises_iff_faithful {l : Leaf} : l.Arises ↔ l.Faithful := by
  constructor
  · rintro (h | h)
    · rw [h]
      exact faithful_forget l
    · rw [h]
      exact (remember_learned (faithful_forget l)).2
  · obtain ⟨kind, pattern, compiled⟩ := l
    intro h
    cases compiled with
    | none => exact .inl rfl
    | some r =>
      have hr : compileRegex pattern = .ok r := h r rfl
      right
      simp only [Leaf.forget, Leaf.remember, Leaf.regex, hr]

/-! ## 2. What a step does to leaves -/

/-- The leaf stays as it is, or it is a regular expression that can be compiled and comes to be
    remembered. -/
inductive Leaf.Gains : Leaf → Leaf → Prop
  | nothing (l : Leaf) : Gains l l
  | regex {pattern : String} {r : Regex} (h : compileRegex pattern = .ok r) :
      Gains (.fresh .regex pattern) ⟨.regex, pattern, some r⟩

instance : Std.Refl Leaf.Gains := ⟨.nothing⟩

theorem Leaf.Gains.trans {a b c : Leaf} (h : a.Gains b) (h' : b.Gains c) : a.Gains c := by
  cases h with
  | nothing => exact h'
  | regex h =>
    cases h' with
    | nothing => exact .regex h

theorem leafCompile_gains (l : Leaf) : l.Gains l.compile.2 := by
  obtain ⟨kind, pattern, compiled⟩ := l
  cases kind with
  | string => exact .nothing _
  | regex =>
    show Leaf.Gains _ (Leaf.remember ⟨.regex, pattern, compiled⟩)
    unfold Leaf.remember
    cases compiled with
    | some r => exact .nothing _
    | none =>
      split
      · next r hr => exact .regex hr
      · exact .nothing _

/-- Leaf by leaf, `e'` is `e`, with regular expressions that have come to be remembered. -/
def Expression.Gains (e e' : Expression) : Prop := List.Forall₂ Leaf.Gains e.leaves e'.leaves

instance : Std.Refl Expression.Gains := ⟨fun e => List.forall₂_refl e.leaves⟩

theorem Expression.Gains.trans {a b c : Expression} (h : a.Gains b) (h' : b.Gains c) :
    a.Gains c := by
  have hleaves : ∀ {as bs cs : List Leaf}, List.Forall₂ Leaf.Gains as bs →
      List.Forall₂ Leaf.Gains bs cs → List.Forall₂ Leaf.Gains as cs := by
    intro as bs cs h
    induction h generalizing cs with
    | nil => exact id
    | cons h _ ih =>
      rintro (_ | ⟨h', hs'⟩)
      exact .cons (h.trans h') (ih hs')
  exact hleaves h h'

theorem gains_compound {op : Operator} {es es' : List Expression}
    (h : List.Forall₂ Expression.Gains es es') :
    (Expression.compound op es).Gains (.compound op es') := by
  rw [Expression.Gains, leaves_compound, leaves_compound]
  exact List.rel_flatMap h fun _ _ h => h

theorem compileAll_gains {es : List Expression} (h : ∀ e ∈ es, e.Gains e.compile.2) :
    List.Forall₂ Expression.Gains es (Expression.compileAll es).2 := by
  induction es with
  | nil => exact .nil
  | cons e es ih =>
    obtain ⟨he, hes⟩ := List.forall_mem_cons.mp h
    cases hc : e.compile with
    | mk result e' =>
      rw [hc] at he
      cases result with
      | ok u =>
        rw [compileAll_cons_of_ok hc]
        exact .cons he (ih hes)
      | error err =>
        -- What stands behind the operand that failed is not touched.
        rw [compileAll_cons_of_error hc]
        exact .cons he (List.forall₂_refl es)

theorem compile_gains (e : Expression) : e.Gains e.compile.2 := by
  induction e with
  | leaf l =>
    rw [Expression.compile, Expression.Gains, leaves_leaf, leaves_leaf]
    exact .cons (leafCompile_gains l) .nil
  | compound op es ih =>
    rw [compile_compound]
    exact gains_compound (compileAll_gains ih)

theorem evaluateAll_gains {content : String} {es : List Expression}
    (h : ∀ e ∈ es, e.Gains (e.evaluate content).2) (index : Nat) :
    List.Forall₂ Expression.Gains es (Expression.evaluateAll content index es).2 := by
  induction es generalizing index with
  | nil => exact .nil
  | cons e es ih =>
    obtain ⟨he, hes⟩ := List.forall_mem_cons.mp h
    cases hc : e.evaluate content with
    | mk result e' =>
      rw [hc] at he
      cases result with
      | ok o =>
        rw [evaluateAll_cons_of_ok hc]
        exact .cons he (ih hes (index + 1))
      | error err =>
        rw [evaluateAll_cons_of_error hc]
        exact .cons he (List.forall₂_refl es)

theorem evaluate_gains (e : Expression) (content : String) : e.Gains (e.evaluate content).2 := by
  induction e with
  | leaf l =>
    rw [Expression.evaluate, Expression.Gains, leaves_leaf, leaves_leaf]
    exact .cons (leafCompile_gains l) .nil
  | compound op es ih =>
    cases es with
    | nil =>
      rw [Expression.evaluate]
      exact Std.Refl.refl _
    | cons e es =>
      rw [evaluate_cons]
      exact gains_compound (evaluateAll_gains ih 1)

end Engine

/-! ## 3. What is shown -/

theorem displayMore_forget {es : List Expression} (h : ∀ e ∈ es, e.forget.display = e.display) :
    Expression.displayMore (es.map Expression.forget) = Expression.displayMore es := by
  induction es with
  | nil => rfl
  | cons e es ih =>
    obtain ⟨he, hes⟩ := List.forall_mem_cons.mp h
    rw [List.map_cons, Expression.displayMore, Expression.displayMore, he, ih hes]

/-- **What leaves remember is not shown.** -/
theorem display_forget (e : Expression) : e.forget.display = e.display := by
  induction e with
  | leaf l =>
    rw [forget_leaf, Expression.display, Expression.display]
    rfl
  | compound op es ih =>
    have hall : Expression.displayAll (es.map Expression.forget) = Expression.displayAll es := by
      cases es with
      | nil => rfl
      | cons e es =>
        obtain ⟨he, hes⟩ := List.forall_mem_cons.mp ih
        rw [List.map_cons, Expression.displayAll, Expression.displayAll, he,
          displayMore_forget hes]
    rw [forget_compound, Expression.display, Expression.display, hall]

/-! ## 4. Steps and sessions -/

/-- What is done with an expression. `restore` puts it back to what it was at the start. -/
inductive Step where
  | compile
  | evaluate (content : String)
  | restore

/-- What a step gives. -/
inductive StepResult where
  | compiled (result : Except RegexError Unit)
  | evaluated (result : Except EvalError Outcome)
  | restored

section Engine

variable [Regex.Engine]

/-- **One step** with the expression as it is now: its result, and the expression afterwards. -/
def Step.run (original now : Expression) : Step → StepResult × Expression
  | .compile => (.compiled now.compile.1, now.compile.2)
  | .evaluate content => (.evaluated (now.evaluate content).1, (now.evaluate content).2)
  | .restore => (.restored, original)

/-- **Steps one after the other**: their results, and the expression at the end. -/
def Expression.session (original now : Expression) : List Step → List StepResult × Expression
  | [] => ([], now)
  | step :: steps =>
    let (result, now) := step.run original now
    let (results, now) := original.session now steps
    (result :: results, now)

section Sessions

variable {original now : Expression}

/-- **A step is blind to what leaves remember**, and leaves the tree with faithful memories. -/
theorem Step.run_learned (h : original.Faithful) (hnow : original.Learned now) (step : Step) :
    (step.run original now).1 = (step.run original.forget original.forget).1 ∧
      original.Learned (step.run original now).2 := by
  have hforget : now.forget = original.forget := hnow.forget_eq
  cases step with
  | compile =>
    have hl := compile_learned hnow.faithful
    refine ⟨?_, hl.forget_eq.trans hforget, hl.faithful⟩
    rw [Step.run, Step.run, ← hforget, compile_forget hnow.faithful]
  | evaluate content =>
    have hl := evaluate_learned hnow.faithful content
    refine ⟨?_, hl.forget_eq.trans hforget, hl.faithful⟩
    rw [Step.run, Step.run, ← hforget, evaluate_forget hnow.faithful]
  | restore => exact ⟨rfl, rfl, h⟩

/-- **The same along a session**, by induction on its steps. -/
theorem session_learned (h : original.Faithful) (hnow : original.Learned now)
    (steps : List Step) :
    (original.session now steps).1 =
        steps.map (fun step => (step.run original.forget original.forget).1) ∧
      original.Learned (original.session now steps).2 := by
  induction steps generalizing now with
  | nil => exact ⟨rfl, hnow⟩
  | cons step steps ih =>
    obtain ⟨hresult, hnext⟩ := Step.run_learned h hnow step
    obtain ⟨hresults, hend⟩ := ih hnext
    refine ⟨?_, hend⟩
    rw [List.map_cons, ← hresult, ← hresults]
    rfl

theorem session_append (steps stretch : List Step) :
    (original.session now (steps ++ stretch)).2 =
      (original.session (original.session now steps).2 stretch).2 := by
  induction steps generalizing now with
  | nil => rfl
  | cons step steps ih => exact ih

theorem Step.run_gains {step : Step} (h : step ≠ .restore) :
    now.Gains (step.run original now).2 := by
  cases step with
  | compile => exact compile_gains now
  | evaluate content => exact evaluate_gains now content
  | restore => exact absurd rfl h

/-- **Without `restore`, leaves only ever gain.** -/
theorem session_gains {stretch : List Step} (h : .restore ∉ stretch) :
    now.Gains (original.session now stretch).2 := by
  induction stretch generalizing now with
  | nil => exact Std.Refl.refl now
  | cons step stretch ih =>
    have hstep : step ≠ .restore := fun hs => h (hs ▸ List.mem_cons_self)
    have hrest : .restore ∉ stretch := fun hs => h (List.mem_cons_of_mem step hs)
    exact (Step.run_gains hstep).trans (ih hrest)

end Sessions

/-- **Memories are invisible.** Over every list of steps with an expression, each step gives what it
    gives with the expression that remembers nothing, and the expression stays the same tree, shown
    in the same way. Over every stretch of steps without `restore` a leaf either stays as it is, or
    it is a regular expression that can be compiled and comes to be remembered. -/
theorem session_eq_fresh {original : Expression} (h : ∀ l ∈ original.leaves, l.Arises)
    (steps : List Step) :
    (original.session original steps).1 =
        steps.map (fun step => (step.run original.forget original.forget).1) ∧
      (original.session original steps).2.same original = true ∧
      (original.session original steps).2.display = original.display ∧
      ∀ stretch, .restore ∉ stretch →
        List.Forall₂ Leaf.Gains (original.session original steps).2.leaves
          (original.session original (steps ++ stretch)).2.leaves := by
  have hf : original.Faithful := fun l hl => arises_iff_faithful.mp (h l hl)
  obtain ⟨hresults, hend⟩ := session_learned hf ⟨rfl, hf⟩ steps
  refine ⟨hresults, same_iff_forget_eq.mpr hend.forget_eq, ?_, fun stretch hstretch => ?_⟩
  · rw [← display_forget, hend.forget_eq, display_forget]
  · rw [session_append]
    exact session_gains hstretch

end Engine

theorem session_eq_fresh_faults :
    ∃ original : Expression, original = .compound .or
        [.leaf (.fresh .regex "a+"), .leaf (.fresh .regex "["), .compound .and []] ∧
      (original.session original [.compile, .restore, .evaluate "ca"]).2.same original = true ∧
      List.Forall₂ Leaf.Gains (original.session original [.restore]).2.leaves
        (original.session original ([.restore] ++ [.compile, .evaluate "ca"])).2.leaves := by
  refine ⟨_, rfl, ?_⟩
  have h : ∀ l ∈ (Expression.compound .or [.leaf (.fresh .regex "a+"), .leaf (.fresh .regex "["),
      .compound .and []]).leaves, l.Arises := by
    simpa using ⟨.inl rfl, .inl rfl⟩
  obtain ⟨-, hsame, -, -⟩ := session_eq_fresh h [.compile, .restore, .evaluate "ca"]
  obtain ⟨-, -, -, hgains⟩ := session_eq_fresh h [.restore]
  exact ⟨hsame, hgains [.compile, .evaluate "ca"] (by simp)⟩

end PageWatch.Pattern
