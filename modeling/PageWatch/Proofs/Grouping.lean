import Mathlib.Logic.Relation
import PageWatch.Proofs.Formula
import PageWatch.Regex.Basic
import PageWatch.Watch.Plan

/-!
# Grouping

`a AND (b AND c)` and `(a AND b) AND c` are read as different trees, and an operand in parentheses
may be a compound of one operand. None of this can be seen in an outcome.

* `Expression.Regroups`: one step of regrouping, anywhere in a tree. The operands of a compound are
  spliced into the same operator around it, or a compound of one operand is replaced by the operand;
* `Expression.flat`: the tree with nothing left to regroup. **Regrouping always ends, and always
  with this tree** (`regroups_wellFounded`, `regroups_and_settled_iff`);
* `Expression.Regroups.leaves_eq`, `holds_iff` and `populated`: what one step keeps;
* `Leaf.evaluateEach`: evaluating as a walk over the leaves alone. `Expression.Walks` says that
  evaluating is this walk, together with the value of the formula.

Main statement: `evaluate_flat`.
-/

namespace PageWatch.Pattern

open Relation

/-! ## 1. Regrouping -/

/-- **One step of regrouping**: operands are spliced into the same operator around them, an operand
    stands for a compound of which it is the only one, or something is regrouped further inside.
    The expression as a whole is no operand, so it may keep a single one. -/
inductive Expression.Regroups : Expression → Expression → Prop
  | splice (op : Operator) (before es after : List Expression) :
      Regroups (.compound op (before ++ .compound op es :: after))
        (.compound op (before ++ es ++ after))
  | unwrap (op op' : Operator) (before : List Expression) (e : Expression)
      (after : List Expression) :
      Regroups (.compound op (before ++ .compound op' [e] :: after))
        (.compound op (before ++ e :: after))
  | inside (op : Operator) (before : List Expression) {e e' : Expression}
      (after : List Expression) (h : Regroups e e') :
      Regroups (.compound op (before ++ e :: after)) (.compound op (before ++ e' :: after))

/-- Nothing is left to regroup. -/
def Expression.Settled (e : Expression) : Prop := ∀ e', ¬ e.Regroups e'

/-- What an expression is as operands of `op`: its own operands if it is a compound of `op`, else
    itself. -/
def Expression.splice (op : Operator) : Expression → List Expression
  | .leaf l => [.leaf l]
  | .compound op' es => if op' = op then es else [.compound op' es]

mutual

/-- The flat form of an operand. -/
def Expression.flatOperand : Expression → Expression
  | .leaf l => .leaf l
  | .compound op es => Expression.join op (Expression.flatOperands op es)

/-- The flat form of the operands of `op`. -/
def Expression.flatOperands (op : Operator) : List Expression → List Expression
  | [] => []
  | e :: es => e.flatOperand.splice op ++ Expression.flatOperands op es

end

/-- **The flat form of an expression**: no compound has the operator of the one around it, and no
    operand has a single operand. -/
def Expression.flat : Expression → Expression
  | .leaf l => .leaf l
  | .compound op es => .compound op (Expression.flatOperands op es)

mutual

/-- The number of operators in an expression. -/
def Expression.operators : Expression → Nat
  | .leaf _ => 0
  | .compound _ es => Expression.operatorsOfAll es + 1

/-- The number of operators in all expressions of a list. -/
def Expression.operatorsOfAll : List Expression → Nat
  | [] => 0
  | e :: es => e.operators + Expression.operatorsOfAll es

end

theorem operatorsOfAll_append (es fs : List Expression) :
    Expression.operatorsOfAll (es ++ fs) =
      Expression.operatorsOfAll es + Expression.operatorsOfAll fs := by
  induction es with
  | nil => rw [List.nil_append, Expression.operatorsOfAll, Nat.zero_add]
  | cons e es ih =>
    rw [List.cons_append, Expression.operatorsOfAll, Expression.operatorsOfAll, ih, Nat.add_assoc]

/-- **A step of regrouping takes one operator away.** -/
theorem Expression.Regroups.operators_eq {e e' : Expression} (h : e.Regroups e') :
    e.operators = e'.operators + 1 := by
  induction h with
  | splice op before es after =>
    simp only [Expression.operators, operatorsOfAll_append, Expression.operatorsOfAll]
    omega
  | unwrap op op' before e after =>
    simp only [Expression.operators, operatorsOfAll_append, Expression.operatorsOfAll]
    omega
  | inside op before after h ih =>
    simp only [Expression.operators, operatorsOfAll_append, Expression.operatorsOfAll, ih]
    omega

/-- Regrouping cannot go on for ever. -/
theorem regroups_wellFounded : WellFounded fun e' e : Expression => e.Regroups e' := by
  have hless : ∀ {e' e : Expression}, e.Regroups e' → e'.operators < e.operators := by
    intro e' e h
    rw [h.operators_eq]
    exact Nat.lt_succ_self e'.operators
  exact Subrelation.wf hless (measure Expression.operators).wf

/-! ## 2. Flat forms -/

/-- An operand of `above` with nothing left to regroup, neither in it nor between it and `above`. -/
inductive Expression.FlatIn : Operator → Expression → Prop
  | leaf {above : Operator} (l : Leaf) : FlatIn above (.leaf l)
  | compound {above op : Operator} {es : List Expression} (hop : op ≠ above)
      (hlone : es.length ≠ 1) (h : ∀ e ∈ es, e.FlatIn op) : FlatIn above (.compound op es)

/-- Every operand of the expression has nothing left to regroup. -/
def Expression.OperandsFlat : Expression → Prop
  | .leaf _ => True
  | .compound op es => ∀ e ∈ es, e.FlatIn op

section FlatForms

variable {above op : Operator} {e : Expression} {es : List Expression}

theorem flatOperands_append (op : Operator) (es fs : List Expression) :
    Expression.flatOperands op (es ++ fs) =
      Expression.flatOperands op es ++ Expression.flatOperands op fs := by
  induction es with
  | nil => rfl
  | cons e es ih =>
    rw [List.cons_append, Expression.flatOperands, Expression.flatOperands, ih, List.append_assoc]

theorem flatOperands_middle (op : Operator) (before : List Expression) (e : Expression)
    (after : List Expression) :
    Expression.flatOperands op (before ++ e :: after) =
      Expression.flatOperands op before ++
        (e.flatOperand.splice op ++ Expression.flatOperands op after) := by
  rw [flatOperands_append, Expression.flatOperands]

/-- What is an operand of any operator can be spliced into `op`. -/
theorem Expression.FlatIn.of_mem_splice (h : e.FlatIn above) : ∀ g ∈ e.splice op, g.FlatIn op := by
  cases h with
  | leaf l =>
    rw [Expression.splice, List.forall_mem_singleton]
    exact .leaf l
  | @compound _ op' es hop hlone h =>
    rw [Expression.splice]
    by_cases hsame : op' = op
    · rw [if_pos hsame, ← hsame]
      exact h
    · rw [if_neg hsame, List.forall_mem_singleton]
      exact .compound hsame hlone h

/-- An operand of `op` has nothing to splice into `op`. -/
theorem Expression.FlatIn.splice_eq (h : e.FlatIn op) : e.splice op = [e] := by
  cases h with
  | leaf l => rfl
  | compound hop _ _ => rw [Expression.splice, if_neg hop]

theorem splice_join (h : ∀ e ∈ es, e.FlatIn op) : (Expression.join op es).splice op = es := by
  rcases es with _ | ⟨e, _ | ⟨e', es⟩⟩
  · exact if_pos rfl
  · exact (h e List.mem_cons_self).splice_eq
  · exact if_pos rfl

theorem join_splice (h : e.FlatIn above) (op : Operator) :
    Expression.join op (e.splice op) = e := by
  cases h with
  | leaf l => rfl
  | @compound _ op' es hop hlone h =>
    rw [Expression.splice]
    by_cases hsame : op' = op
    · rw [if_pos hsame, hsame]
      rcases es with _ | ⟨e, _ | ⟨e', es⟩⟩
      · rfl
      · exact absurd rfl hlone
      · rfl
    · rw [if_neg hsame]
      rfl

/-- Joined operands are an operand of some operator. -/
theorem exists_flatIn_join (h : ∀ e ∈ es, e.FlatIn op) :
    ∃ above, (Expression.join op es).FlatIn above := by
  obtain ⟨above, habove⟩ : ∃ above, op ≠ above := by
    cases op with
    | and => exact ⟨.or, by decide⟩
    | or => exact ⟨.and, by decide⟩
  rcases es with _ | ⟨e, _ | ⟨e', es⟩⟩
  · exact ⟨above, .compound habove (by simp) h⟩
  · exact ⟨op, h e List.mem_cons_self⟩
  · exact ⟨above, .compound habove (by simp) h⟩

theorem flatOperands_flatIn_of (h : ∀ e ∈ es, ∃ above, e.flatOperand.FlatIn above) :
    ∀ g ∈ Expression.flatOperands op es, g.FlatIn op := by
  induction es with
  | nil => exact List.forall_mem_nil _
  | cons e es ih =>
    obtain ⟨⟨above, he⟩, hes⟩ := List.forall_mem_cons.mp h
    rw [Expression.flatOperands, List.forall_mem_append]
    exact ⟨he.of_mem_splice, ih hes⟩

theorem exists_flatIn_flatOperand (e : Expression) : ∃ above, e.flatOperand.FlatIn above := by
  induction e with
  | leaf l => exact ⟨.and, .leaf l⟩
  | compound op es ih =>
    rw [Expression.flatOperand]
    exact exists_flatIn_join (flatOperands_flatIn_of ih)

/-- **The flat form of operands has nothing left to regroup.** -/
theorem flatOperands_flatIn (op : Operator) (es : List Expression) :
    ∀ g ∈ Expression.flatOperands op es, g.FlatIn op :=
  flatOperands_flatIn_of fun e _ => exists_flatIn_flatOperand e

end FlatForms

/-! ## 3. Where regrouping ends -/

section Ends

variable {op : Operator} {es : List Expression}

/-- **A step of regrouping does not change the flat form of operands**, nor the operator that
    stands above everything. -/
theorem Expression.Regroups.flatOperands_eq {e e' : Expression} (h : e.Regroups e') :
    ∃ op es es', e = .compound op es ∧ e' = .compound op es' ∧
      Expression.flatOperands op es' = Expression.flatOperands op es := by
  induction h with
  | splice op before es after =>
    refine ⟨op, _, _, rfl, rfl, ?_⟩
    rw [flatOperands_middle, Expression.flatOperand, splice_join (flatOperands_flatIn op es),
      flatOperands_append, flatOperands_append, List.append_assoc]
  | unwrap op op' before e after =>
    refine ⟨op, _, _, rfl, rfl, ?_⟩
    -- The lone operand is spliced into `op'` and joined again.
    obtain ⟨above, he⟩ := exists_flatIn_flatOperand e
    have hlone : (Expression.compound op' [e]).flatOperand = e.flatOperand := by
      rw [Expression.flatOperand, Expression.flatOperands, Expression.flatOperands,
        List.append_nil, join_splice he]
    rw [flatOperands_middle, flatOperands_middle, hlone]
  | inside op before after h ih =>
    refine ⟨op, _, _, rfl, rfl, ?_⟩
    obtain ⟨op', es, es', rfl, rfl, hes⟩ := ih
    rw [flatOperands_middle, flatOperands_middle, Expression.flatOperand, Expression.flatOperand,
      hes]

theorem Expression.Regroups.flat_eq {e e' : Expression} (h : e.Regroups e') : e'.flat = e.flat := by
  obtain ⟨op, es, es', rfl, rfl, hes⟩ := h.flatOperands_eq
  rw [Expression.flat, Expression.flat, hes]

theorem Expression.Regroups.not_operandsFlat {e e' : Expression} (h : e.Regroups e') :
    ¬ e.OperandsFlat := by
  intro hflat
  induction h with
  | splice op before es after =>
    cases hflat (.compound op es) (by simp) with
    | compound hop _ _ => exact hop rfl
  | unwrap op op' before e after =>
    cases hflat (.compound op' [e]) (by simp) with
    | compound _ hlone _ => exact hlone rfl
  | @inside op before e e' after hstep ih =>
    cases hflat e (by simp) with
    | leaf l => cases hstep
    | compound _ _ h => exact ih h

theorem flat_settled (e : Expression) : e.flat.Settled := by
  have hflat : e.flat.OperandsFlat := by
    cases e with
    | leaf l => trivial
    | compound op es => exact flatOperands_flatIn op es
  exact fun e' hstep => hstep.not_operandsFlat hflat

/-- Steps inside an operand are steps of the whole. -/
theorem regroups_inside {e e' : Expression} (op : Operator) (before after : List Expression)
    (h : ReflTransGen Expression.Regroups e e') :
    ReflTransGen Expression.Regroups (.compound op (before ++ e :: after))
      (.compound op (before ++ e' :: after)) :=
  ReflTransGen.lift (fun e => Expression.compound op (before ++ e :: after))
    (fun _ _ hstep => Expression.Regroups.inside op before after hstep) _ _ h

theorem regroups_splice (op : Operator) (before : List Expression) (e : Expression)
    (after : List Expression) :
    ReflTransGen Expression.Regroups (.compound op (before ++ e :: after))
      (.compound op (before ++ e.splice op ++ after)) := by
  cases e with
  | leaf l =>
    rw [Expression.splice, List.append_assoc]
    exact .refl
  | compound op' es =>
    rw [Expression.splice]
    by_cases hsame : op' = op
    · rw [if_pos hsame, hsame]
      exact .single (.splice op before es after)
    · rw [if_neg hsame, List.append_assoc]
      exact .refl

theorem regroups_join (op op' : Operator) (before es after : List Expression) :
    ReflTransGen Expression.Regroups (.compound op (before ++ .compound op' es :: after))
      (.compound op (before ++ Expression.join op' es :: after)) := by
  rcases es with _ | ⟨e, _ | ⟨e', es⟩⟩
  · exact .refl
  · exact .single (.unwrap op op' before e after)
  · exact .refl

/-- The operands are regrouped one after the other. -/
theorem regroups_operands (before : List Expression)
    (h : ∀ e ∈ es, ∀ before after, ReflTransGen Expression.Regroups
      (.compound op (before ++ e :: after))
      (.compound op (before ++ e.flatOperand.splice op ++ after))) :
    ReflTransGen Expression.Regroups (.compound op (before ++ es))
      (.compound op (before ++ Expression.flatOperands op es)) := by
  induction es generalizing before with
  | nil => exact .refl
  | cons e es ih =>
    obtain ⟨he, hes⟩ := List.forall_mem_cons.mp h
    rw [Expression.flatOperands, ← List.append_assoc]
    exact (he before es).trans (ih (before ++ e.flatOperand.splice op) hes)

theorem regroups_flatOperand (e : Expression) (op : Operator) (before after : List Expression) :
    ReflTransGen Expression.Regroups (.compound op (before ++ e :: after))
      (.compound op (before ++ e.flatOperand.splice op ++ after)) := by
  induction e generalizing op before after with
  | leaf l => exact regroups_splice op before (.leaf l) after
  | compound op' es ih =>
    have hes : ReflTransGen Expression.Regroups (.compound op' es)
        (.compound op' (Expression.flatOperands op' es)) :=
      regroups_operands [] fun e he => ih e he op'
    -- First the operands are regrouped inside, then the compound is unwrapped if only one of them is
    -- left, and what stands there is spliced into `op` if it can be.
    rw [Expression.flatOperand]
    calc ReflTransGen Expression.Regroups (.compound op (before ++ .compound op' es :: after))
          (.compound op (before ++ .compound op' (Expression.flatOperands op' es) :: after)) :=
          regroups_inside op before after hes
      ReflTransGen Expression.Regroups _ _ := regroups_join op op' before _ after
      ReflTransGen Expression.Regroups _ _ := regroups_splice op before _ after

theorem regroups_flat (e : Expression) : ReflTransGen Expression.Regroups e e.flat := by
  cases e with
  | leaf l => exact .refl
  | compound op es => exact regroups_operands [] fun e _ => regroups_flatOperand e op

theorem flat_eq_of_regroups {e n : Expression} (h : ReflTransGen Expression.Regroups e n) :
    n.flat = e.flat := by
  induction h with
  | refl => rfl
  | tail _ hstep ih => rw [hstep.flat_eq, ih]

/-- **Regrouping can end at the flat form, and nowhere else.** -/
theorem regroups_and_settled_iff {e n : Expression} :
    (ReflTransGen Expression.Regroups e n ∧ n.Settled) ↔ n = e.flat := by
  constructor
  · rintro ⟨hreach, hsettled⟩
    rw [← flat_eq_of_regroups hreach]
    rcases (regroups_flat n).cases_head with hsame | ⟨n', hstep, -⟩
    · exact hsame
    · exact absurd hstep (hsettled n')
  · rintro rfl
    exact ⟨regroups_flat e, flat_settled e⟩

end Ends

/-! ## 4. What one step keeps -/

section Steps

variable {e e' : Expression}

theorem Expression.Regroups.leaves_eq (h : e.Regroups e') : e'.leaves = e.leaves := by
  induction h with
  | splice op before es after => simp
  | unwrap op op' before e after => simp
  | inside op before after h ih => simp [ih]

/-- A compound of one operand says what the operand says. -/
theorem holds_lone {atom : Leaf → Prop} (op : Operator) (e : Expression) :
    (Expression.compound op [e]).Holds atom ↔ e.Holds atom := by
  cases op with
  | and => rw [holds_and, List.forall_mem_singleton]
  | or => simp [holds_or]

theorem holds_replace {atom : Leaf → Prop} (op : Operator) (before : List Expression)
    (after : List Expression) (h : e.Holds atom ↔ e'.Holds atom) :
    (Expression.compound op (before ++ e :: after)).Holds atom ↔
      (Expression.compound op (before ++ e' :: after)).Holds atom := by
  cases op with
  | and => simp only [holds_and, List.forall_mem_append, List.forall_mem_cons, h]
  | or => simp [holds_or, or_and_right, exists_or, h]

/-- **An operator joins what it joined before.** -/
theorem Expression.Regroups.holds_iff {atom : Leaf → Prop} (h : e.Regroups e') :
    e.Holds atom ↔ e'.Holds atom := by
  induction h with
  | splice op before es after =>
    cases op with
    | and => simp only [holds_and, List.forall_mem_append, List.forall_mem_cons, and_assoc]
    | or => simp [holds_or, or_and_right, exists_or]
  | unwrap op op' before e after => exact holds_replace op before after (holds_lone op' e)
  | inside op before after h ih => exact holds_replace op before after ih

theorem Expression.Regroups.populated (h : e.Regroups e') (hp : e.Populated) : e'.Populated := by
  induction h with
  | splice op before es after =>
    simp only [populated_compound, List.forall_mem_append, List.forall_mem_cons] at hp ⊢
    obtain ⟨-, hbefore, ⟨hes, hall⟩, hafter⟩ := hp
    exact ⟨by simp [hes], ⟨hbefore, hall⟩, hafter⟩
  | unwrap op op' before e after =>
    simp only [populated_compound, List.forall_mem_append, List.forall_mem_cons] at hp ⊢
    obtain ⟨-, hbefore, ⟨-, he, -⟩, hafter⟩ := hp
    exact ⟨by simp, hbefore, he, hafter⟩
  | inside op before after h ih =>
    simp only [populated_compound, List.forall_mem_append, List.forall_mem_cons] at hp ⊢
    obtain ⟨-, hbefore, he, hafter⟩ := hp
    exact ⟨by simp, hbefore, ih he, hafter⟩

theorem leaves_of_regroups {e n : Expression} (h : ReflTransGen Expression.Regroups e n) :
    n.leaves = e.leaves := by
  induction h with
  | refl => rfl
  | tail _ hstep ih => rw [hstep.leaves_eq, ih]

end Steps

section Engine

variable [Regex.Engine]

/-! ## 5. Evaluating as a walk over leaves -/

/-- Evaluates leaves from left to right up to the first that fails. Gives all that they matched, or
    the error, and the leaves with what was compiled on the way. -/
def Leaf.evaluateEach (content : String) : List Leaf → Except EvalError (List String) × List Leaf
  | [] => (.ok [], [])
  | l :: ls =>
    match l.evaluate content with
    | (.error err, l) => (.error err, l :: ls)
    | (.ok o, l) =>
      let (result, ls) := Leaf.evaluateEach content ls
      (result.map (o.matched ++ ·), l :: ls)

/-- The leaf has an outcome on the text, and it is found there. -/
def Leaf.Finds (content : String) (l : Leaf) : Prop :=
  ∃ o, (l.evaluate content).1 = .ok o ∧ o.found = true

/-- **Evaluating is the walk over the leaves**, and an outcome is found if the expression holds. -/
structure Expression.Walks (content : String) (e : Expression) : Prop where
  walk : Leaf.evaluateEach content e.leaves =
    (((e.evaluate content).1.map Outcome.matched).mapError EvalError.cause,
      (e.evaluate content).2.leaves)
  found_iff : ∀ o, (e.evaluate content).1 = .ok o →
    (o.found = true ↔ e.Holds (Leaf.Finds content))

section Walks

variable {content : String}

theorem evaluateEach_cons_of_ok {l l' : Leaf} {o : Outcome}
    (h : l.evaluate content = (.ok o, l')) (ls : List Leaf) :
    Leaf.evaluateEach content (l :: ls) =
      ((Leaf.evaluateEach content ls).1.map (o.matched ++ ·),
        l' :: (Leaf.evaluateEach content ls).2) := by
  rw [Leaf.evaluateEach, h]

theorem evaluateEach_cons_of_error {l l' : Leaf} {err : EvalError}
    (h : l.evaluate content = (.error err, l')) (ls : List Leaf) :
    Leaf.evaluateEach content (l :: ls) = (.error err, l' :: ls) := by
  rw [Leaf.evaluateEach, h]

theorem evaluateEach_append_of_ok {ls ls' : List Leaf} {ms : List String}
    (h : Leaf.evaluateEach content ls = (.ok ms, ls')) (ks : List Leaf) :
    Leaf.evaluateEach content (ls ++ ks) =
      ((Leaf.evaluateEach content ks).1.map (ms ++ ·),
        ls' ++ (Leaf.evaluateEach content ks).2) := by
  induction ls generalizing ms ls' with
  | nil =>
    rw [Leaf.evaluateEach] at h
    cases h
    rw [List.nil_append, map_nil_append, List.nil_append]
  | cons l ls ih =>
    rw [List.cons_append]
    cases hl : l.evaluate content with
    | mk result l' =>
      cases result with
      | error err =>
        rw [evaluateEach_cons_of_error hl] at h
        cases h
      | ok o =>
        rw [evaluateEach_cons_of_ok hl] at h
        obtain ⟨hmap, rfl⟩ := Prod.mk.inj h
        obtain ⟨ms', hms', rfl⟩ := map_eq_ok_iff.mp hmap
        rw [evaluateEach_cons_of_ok hl, ih (Prod.ext hms' rfl), map_map]
        simp only [List.append_assoc, List.cons_append]

theorem evaluateEach_append_of_error {ls ls' : List Leaf} {err : EvalError}
    (h : Leaf.evaluateEach content ls = (.error err, ls')) (ks : List Leaf) :
    Leaf.evaluateEach content (ls ++ ks) = (.error err, ls' ++ ks) := by
  induction ls generalizing ls' with
  | nil => cases h
  | cons l ls ih =>
    rw [List.cons_append]
    cases hl : l.evaluate content with
    | mk result l' =>
      cases result with
      | error err' =>
        rw [evaluateEach_cons_of_error hl] at h ⊢
        cases h
        rfl
      | ok o =>
        rw [evaluateEach_cons_of_ok hl] at h
        obtain ⟨hmap, rfl⟩ := Prod.mk.inj h
        rw [evaluateEach_cons_of_ok hl, ih (Prod.ext (map_eq_error_iff.mp hmap) rfl), map_error,
          List.cons_append]

theorem cause_of_leafEvaluate {l : Leaf} {err : EvalError}
    (h : (l.evaluate content).1 = .error err) : err.cause = err := by
  rw [Leaf.evaluate, map_eq_error_iff] at h
  unfold Leaf.matched at h
  split at h
  · cases h
  · split at h
    · cases h
    · cases h
      rfl

theorem walks_leaf (l : Leaf) : (Expression.leaf l).Walks content where
  walk := by
    rw [leaves_leaf, Expression.evaluate, leaves_leaf]
    cases hl : l.evaluate content with
    | mk result l' =>
      cases result with
      | error err =>
        have hcause : err.cause = err := cause_of_leafEvaluate (congrArg Prod.fst hl)
        rw [evaluateEach_cons_of_error hl, map_error, mapError_error, hcause]
      | ok o =>
        rw [evaluateEach_cons_of_ok hl, Leaf.evaluateEach]
        simp
  found_iff o ho := by
    rw [Expression.evaluate] at ho
    rw [holds_leaf]
    constructor
    · exact fun hfound => ⟨o, ho, hfound⟩
    · rintro ⟨o', ho', hfound⟩
      rw [ho] at ho'
      cases ho'
      exact hfound

/-- Over operands, evaluating is the walk over all their leaves, if it is so for each operand. -/
theorem evaluateAll_walks {es : List Expression} (h : ∀ e ∈ es, e.Walks content) (index : Nat) :
    Leaf.evaluateEach content (es.flatMap Expression.leaves) =
        (((Expression.evaluateAll content index es).1.map Prod.snd).mapError EvalError.cause,
          (Expression.evaluateAll content index es).2.flatMap Expression.leaves) ∧
      ∀ vs ms, (Expression.evaluateAll content index es).1 = .ok (vs, ms) →
        Tells (Leaf.Finds content) es vs := by
  induction es generalizing index with
  | nil =>
    rw [Expression.evaluateAll]
    refine ⟨rfl, ?_⟩
    intro vs ms hvs
    cases hvs
    exact .nil
  | cons e es ih =>
    obtain ⟨⟨hwalk, hfound⟩, hes⟩ := List.forall_mem_cons.mp h
    obtain ⟨hwalks, htells⟩ := ih hes (index + 1)
    rw [List.flatMap_cons]
    cases hc : e.evaluate content with
    | mk result e' =>
      rw [hc] at hwalk hfound
      cases result with
      | ok o =>
        rw [evaluateEach_append_of_ok hwalk, evaluateAll_cons_of_ok hc, hwalks]
        cases hr : (Expression.evaluateAll content (index + 1) es).1 with
        | error err =>
          refine ⟨rfl, ?_⟩
          intro vs ms hvs
          cases hvs
        | ok r =>
          refine ⟨rfl, ?_⟩
          intro vs ms hvs
          cases hvs
          exact .cons (hfound o rfl) (htells r.1 r.2 hr)
      | error err =>
        -- The position of the operand is no part of the cause.
        rw [evaluateEach_append_of_error hwalk, evaluateAll_cons_of_error hc]
        refine ⟨rfl, ?_⟩
        intro vs ms hvs
        cases hvs

theorem walks_of_populated {e : Expression} (hp : e.Populated) : e.Walks content := by
  induction hp with
  | leaf l => exact walks_leaf l
  | @compound op es hes _ ih =>
    obtain ⟨hwalk, htells⟩ := evaluateAll_walks ih 1
    obtain ⟨e, es, rfl⟩ := List.exists_cons_of_ne_nil hes
    constructor
    · rw [evaluate_cons, leaves_compound, leaves_compound, hwalk, map_map]
    · intro o ho
      rw [evaluate_cons] at ho
      obtain ⟨⟨vs, ms⟩, hvs, rfl⟩ := map_eq_ok_iff.mp ho
      exact (htells vs ms hvs).verdict_iff

/-- **Expressions with the same leaves and the same formula** have the same outcome, or fail for
    the same cause, and have the same leaves afterwards. -/
theorem evaluate_congr {e e' : Expression} (hp : e.Populated) (hp' : e'.Populated)
    (hleaves : e'.leaves = e.leaves)
    (hholds : e'.Holds (Leaf.Finds content) ↔ e.Holds (Leaf.Finds content)) :
    (e'.evaluate content).1.mapError EvalError.cause =
        (e.evaluate content).1.mapError EvalError.cause ∧
      (e'.evaluate content).2.leaves = (e.evaluate content).2.leaves := by
  have hwalks : e.Walks content := walks_of_populated hp
  have hwalks' : e'.Walks content := walks_of_populated hp'
  obtain ⟨hwalk, hfound⟩ := hwalks
  obtain ⟨hwalk', hfound'⟩ := hwalks'
  rw [hleaves, hwalk] at hwalk'
  obtain ⟨hresult, hafter⟩ := Prod.mk.inj hwalk'
  have hsame : ∀ o' o, (e'.evaluate content).1 = .ok o' → (e.evaluate content).1 = .ok o →
      o'.matched = o.matched → o' = o := by
    intro o' o ho' ho hmatched
    have hverdict : o'.found = o.found := by
      rw [Bool.eq_iff_iff, hfound' o' ho', hfound o ho, hholds]
    obtain ⟨found', matched'⟩ := o'
    obtain ⟨found, matched⟩ := o
    rw [Outcome.mk.injEq]
    exact ⟨hverdict, hmatched⟩
  exact ⟨mapError_eq_of_map hresult.symm hsame, hafter.symm⟩

end Walks

/-! ## 6. Outcomes of regrouped expressions -/

/-- **No outcome tells groupings apart**, whatever was regrouped and how often. -/
theorem evaluate_of_regroups {e n : Expression} (h : ReflTransGen Expression.Regroups e n)
    (hp : e.Populated) (content : String) :
    (n.evaluate content).1.mapError EvalError.cause =
        (e.evaluate content).1.mapError EvalError.cause ∧
      (n.evaluate content).2.leaves = (e.evaluate content).2.leaves := by
  have hkept : n.Populated ∧ (n.Holds (Leaf.Finds content) ↔ e.Holds (Leaf.Finds content)) := by
    induction h with
    | refl => exact ⟨hp, Iff.rfl⟩
    | tail _ hstep ih =>
      obtain ⟨hpop, hholds⟩ := ih
      exact ⟨hstep.populated hpop, hstep.holds_iff.symm.trans hholds⟩
  exact evaluate_congr hp hkept.1 (leaves_of_regroups h) hkept.2

/-- The outcome of a search is the outcome of the flat form of its expression. -/
theorem searchText_of_flat {s : String} {e : Expression} (h : parse s {} = .ok e)
    (content : String) :
    ∃ o, searchText s content = .ok o ∧ (e.flat.forget.evaluate content).1 = .ok o := by
  have hp := populated_of_parse h
  have hflat : e.flat.Faithful := by
    rw [Expression.Faithful, leaves_of_regroups (regroups_flat e)]
    exact faithful_of_parse h
  obtain ⟨o, ho⟩ := exists_outcome (faithful_of_parse h) hp (compiles_of_parse rfl h) content
  refine ⟨o, ?_, ?_⟩
  · rw [searchText, h]
    dsimp only
    rw [ho]
  · have hsame := (evaluate_of_regroups (regroups_flat e) hp content).1
    rw [ho, mapError_ok, mapError_eq_ok_iff] at hsame
    rw [evaluate_forget hflat, hsame]

/-- **Grouping the operands of one operator does not matter.** (1) Whatever is regrouped first,
    regrouping ends, and it ends at the flat form. (2) If every operator has operands, the flat form
    has the outcome of the expression on every text, or both fail for the same cause, and the same
    leaves have come to be compiled. (3) Two patterns that are read as expressions with the same
    flat form have the same outcome on every text. -/
theorem evaluate_flat :
    ((WellFounded fun e' e : Expression => e.Regroups e') ∧
      ∀ e n : Expression, (ReflTransGen Expression.Regroups e n ∧ n.Settled) ↔ n = e.flat) ∧
    (∀ e : Expression, e.Populated → ∀ content,
      (e.flat.evaluate content).1.mapError EvalError.cause =
          (e.evaluate content).1.mapError EvalError.cause ∧
        (e.flat.evaluate content).2.leaves = (e.evaluate content).2.leaves) ∧
    ∀ (s t : String) (e₁ e₂ : Expression), parse s {} = .ok e₁ → parse t {} = .ok e₂ →
      e₁.flat.same e₂.flat = true →
      ∀ content, ∃ o, searchText s content = .ok o ∧ searchText t content = .ok o := by
  refine ⟨⟨regroups_wellFounded, fun e n => regroups_and_settled_iff⟩,
    fun e hp content => evaluate_of_regroups (regroups_flat e) hp content, ?_⟩
  intro s t e₁ e₂ hs ht hsame content
  obtain ⟨o, ho, hflat⟩ := searchText_of_flat hs content
  obtain ⟨o', ho', hflat'⟩ := searchText_of_flat ht content
  rw [← same_iff_forget_eq.mp hsame, hflat] at hflat'
  obtain rfl : o = o' := Except.ok.inj hflat'
  exact ⟨o, ho, ho'⟩

end Engine

/-- A chain of `AND` that is grouped in two ways, and an expression that cannot be evaluated. -/
theorem evaluate_flat_nested :
    (∃ e₁ e₂, parse "x AND (y AND z)" {} = .ok e₁ ∧ parse "(x AND y) AND z" {} = .ok e₂ ∧
      e₁.same e₂ = false ∧ ∀ content, ∃ o, searchText "x AND (y AND z)" content = .ok o ∧
        searchText "(x AND y) AND z" content = .ok o) ∧
    ∃ e : Expression, e = .compound .or [.leaf (.fresh .string "x"),
        .compound .and [.compound .or [.leaf (.fresh .regex "["), .leaf (.fresh .regex "b")]]] ∧
      e.flat = .compound .or [.leaf (.fresh .string "x"), .leaf (.fresh .regex "["),
        .leaf (.fresh .regex "b")] ∧
      ReflTransGen Expression.Regroups e e.flat ∧ e.flat.Settled ∧
      (e.flat.evaluate "xb").1.mapError EvalError.cause =
        (e.evaluate "xb").1.mapError EvalError.cause := by
  obtain ⟨⟨-, hends⟩, houtcome, hpatterns⟩ := evaluate_flat
  constructor
  · have hright : scan "x AND (y AND z)".toList = .ok [.leaf "x", .operator .and, .opening,
        .leaf "y", .operator .and, .leaf "z", .closing] := by
      decide +kernel
    have hleft : scan "(x AND y) AND z".toList = .ok [.opening, .leaf "x", .operator .and,
        .leaf "y", .closing, .operator .and, .leaf "z"] := by
      decide +kernel
    have h₁ : parse "x AND (y AND z)" {} = .ok (.compound .and [.leaf (.fresh .string "x"),
        .compound .and [.leaf (.fresh .string "y"), .leaf (.fresh .string "z")]]) := by
      rw [parse, tokenize_eq_ok_iff.mpr hright]
      rfl
    have h₂ : parse "(x AND y) AND z" {} = .ok (.compound .and [
        .compound .and [.leaf (.fresh .string "x"), .leaf (.fresh .string "y")],
        .leaf (.fresh .string "z")]) := by
      rw [parse, tokenize_eq_ok_iff.mpr hleft]
      rfl
    exact ⟨_, _, h₁, h₂, rfl, hpatterns _ _ _ _ h₁ h₂ rfl⟩
  · have hinner : (Expression.compound .or
        [.leaf (.fresh .regex "["), .leaf (.fresh .regex "b")]).Populated :=
      .compound (by simp) (by simpa using ⟨.leaf _, .leaf _⟩)
    have hlone : (Expression.compound .and [.compound .or
        [.leaf (.fresh .regex "["), .leaf (.fresh .regex "b")]]).Populated :=
      .compound (by simp) (by simpa using hinner)
    have hp : (Expression.compound .or [.leaf (.fresh .string "x"), .compound .and
        [.compound .or [.leaf (.fresh .regex "["), .leaf (.fresh .regex "b")]]]).Populated :=
      .compound (by simp) (by simpa using ⟨.leaf _, hlone⟩)
    obtain ⟨hreach, hsettled⟩ := (hends _ _).mpr rfl
    exact ⟨_, rfl, rfl, hreach, hsettled, (houtcome _ hp "xb").1⟩

end PageWatch.Pattern
