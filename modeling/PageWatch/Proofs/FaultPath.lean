import PageWatch.Proofs.Faults
import PageWatch.Proofs.Session

/-!
# The way to the first fault

A node of an expression is found by a path: the positions of the operands on the way to it, from 1
on. Paths are compared as lists of numbers, so a node comes before those under it, and operands come
from left to right: **the order of paths is depth first**.

* `Expression.FaultAt` and `Expression.FirstFaultAt`: the faulty nodes, and the first of them;
* `fault?_eq_none_iff` and `firstFaultAt_of_fault?`: the walk of `Expression.fault?` finds it;
* `evaluate_node?`: the leaves that evaluating comes to are those in front of it;
* `compile_eq_evaluate`: compiling ahead comes to the same leaves, if every operator has operands.

Main statement: **an error of evaluating is the way to the first faulty node**
(`evaluate_points_at_first_fault`).
-/

namespace PageWatch.Pattern

/-! ## 1. Nodes -/

/-- The operand at a position, from 1 on. -/
def Expression.operand? : Expression → Nat → Option Expression
  | .compound _ es, i + 1 => es[i]?
  | .compound _ _, 0 => none
  | .leaf _, _ => none

/-- The node that a path leads to. -/
def Expression.node? : Expression → List Nat → Option Expression
  | e, [] => some e
  | e, i :: path => (e.operand? i).bind fun e' => e'.node? path

section Nodes

variable {op : Operator} {es : List Expression} {l : Leaf} {path : List Nat}

theorem node?_leaf {n : Expression} :
    (Expression.leaf l).node? path = some n ↔ path = [] ∧ n = .leaf l := by
  cases path with
  | nil => simp [Expression.node?, eq_comm]
  | cons i path => simp [Expression.node?, Expression.operand?]

/-- The nodes of a compound: itself, and those of its operands. -/
theorem node?_compound {n : Expression} :
    (Expression.compound op es).node? path = some n ↔
      (path = [] ∧ n = .compound op es) ∨
        ∃ i e q, path = (i + 1) :: q ∧ es[i]? = some e ∧ e.node? q = some n := by
  match path with
  | [] =>
    rw [Expression.node?, Option.some_inj]
    simpa using eq_comm
  | 0 :: path => simp [Expression.node?, Expression.operand?]
  | (i + 1) :: path =>
    simp [Expression.node?, Expression.operand?, Option.bind_eq_some_iff]

theorem mem_leaves_of_node? {e : Expression} (h : e.node? path = some (.leaf l)) :
    l ∈ e.leaves := by
  induction e generalizing path with
  | leaf l₀ =>
    obtain ⟨-, hl⟩ := node?_leaf.mp h
    rw [leaves_leaf, Expression.leaf.inj hl]
    exact List.mem_singleton_self l₀
  | compound op es ih =>
    obtain ⟨-, hcompound⟩ | ⟨i, e, q, -, he, hq⟩ := node?_compound.mp h
    · cases hcompound
    · have hmem := List.mem_of_getElem? he
      rw [leaves_compound]
      exact List.mem_flatMap.mpr ⟨e, hmem, ih e hmem hq⟩

end Nodes

section Engine

variable [Regex.Engine]

/-- What is wrong with a node itself, whatever is wrong under it. -/
def Expression.ownFault? : Expression → Option EvalError
  | .leaf l => l.fault?.map .badRegex
  | .compound op [] => some (.emptyCompound op)
  | .compound _ (_ :: _) => none

/-- The node at `path` is faulty, and `r` says what is wrong with it. -/
def Expression.FaultAt (e : Expression) (path : List Nat) (r : EvalError) : Prop :=
  ∃ n, e.node? path = some n ∧ n.ownFault? = some r

/-- The node at `path` is the first faulty one. -/
def Expression.FirstFaultAt (e : Expression) (path : List Nat) (r : EvalError) : Prop :=
  e.FaultAt path r ∧ ∀ path' r', e.FaultAt path' r' → ¬ path' < path

/-- The error with the way to its node. -/
def EvalError.under (r : EvalError) : List Nat → EvalError
  | [] => r
  | i :: path => .child i (r.under path)

section FaultyNodes

variable {e : Expression} {op : Operator} {es : List Expression} {l : Leaf} {path : List Nat}
  {r : EvalError}

theorem faultAt_leaf :
    (Expression.leaf l).FaultAt path r ↔ path = [] ∧ l.fault?.map .badRegex = some r := by
  unfold Expression.FaultAt
  simp only [node?_leaf]
  constructor
  · rintro ⟨n, ⟨rfl, rfl⟩, hr⟩
    exact ⟨rfl, hr⟩
  · rintro ⟨rfl, hr⟩
    exact ⟨_, ⟨rfl, rfl⟩, hr⟩

theorem faultAt_compound :
    (Expression.compound op es).FaultAt path r ↔
      (path = [] ∧ es = [] ∧ r = .emptyCompound op) ∨
        ∃ i e q, path = (i + 1) :: q ∧ es[i]? = some e ∧ e.FaultAt q r := by
  unfold Expression.FaultAt
  simp only [node?_compound]
  constructor
  · rintro ⟨n, ⟨rfl, rfl⟩ | ⟨i, e, q, rfl, he, hn⟩, hr⟩
    · cases es with
      | nil => exact .inl ⟨rfl, rfl, (Option.some.inj hr).symm⟩
      | cons e es => cases hr
    · exact .inr ⟨i, e, q, rfl, he, n, hn, hr⟩
  · rintro (⟨rfl, rfl, rfl⟩ | ⟨i, e, q, rfl, he, n, hn, hr⟩)
    · exact ⟨_, .inl ⟨rfl, rfl⟩, rfl⟩
    · exact ⟨n, .inr ⟨i, e, q, rfl, he, hn⟩, hr⟩

/-- What is wrong with a node is a cause, and stays it under every path. -/
theorem cause_under (h : e.FaultAt path r) (path' : List Nat) : (r.under path').cause = r := by
  induction path' with
  | nil =>
    obtain ⟨n, -, hr⟩ := h
    match n with
    | .leaf l =>
      obtain ⟨x, -, rfl⟩ := Option.map_eq_some_iff.mp hr
      rfl
    | .compound op [] =>
      cases hr
      rfl
    | .compound op (_ :: _) => cases hr
  | cons i path' ih => exact ih

/-- There is one first faulty node. -/
theorem Expression.FirstFaultAt.unique {path' : List Nat} {r' : EvalError}
    (h : e.FirstFaultAt path r) (h' : e.FirstFaultAt path' r') : path = path' ∧ r = r' := by
  obtain rfl : path = path' := List.le_antisymm (h.2 _ _ h'.1) (h'.2 _ _ h.1)
  obtain ⟨n, hn, hr⟩ := h.1
  obtain ⟨n', hn', hr'⟩ := h'.1
  obtain rfl : n = n' := Option.some.inj (hn.symm.trans hn')
  exact ⟨rfl, Option.some.inj (hr.symm.trans hr')⟩

end FaultyNodes

/-! ## 2. The walk to the first fault -/

theorem faultOfAll?_eq_none_iff {es : List Expression} (index : Nat) :
    Expression.faultOfAll? index es = none ↔ ∀ e ∈ es, e.fault? = none := by
  induction es generalizing index with
  | nil => simp [Expression.faultOfAll?]
  | cons e es ih =>
    rw [Expression.faultOfAll?, List.forall_mem_cons, ← ih (index + 1)]
    cases e.fault? with
    | none => simp
    | some err => simp

/-- The first fault of operands is that of the first faulty operand, at its position. -/
theorem faultOfAll?_eq_some {es : List Expression} {index : Nat} {err : EvalError}
    (h : Expression.faultOfAll? index es = some err) :
    ∃ i e err', es[i]? = some e ∧ e.fault? = some err' ∧ err = .child (index + i) err' ∧
      ∀ j < i, ∀ e', es[j]? = some e' → e'.fault? = none := by
  induction es generalizing index with
  | nil => cases h
  | cons e es ih =>
    rw [Expression.faultOfAll?] at h
    cases hf : e.fault? with
    | some err' =>
      rw [hf] at h
      exact ⟨0, e, err', rfl, hf, (Option.some.inj h).symm, fun j hj => absurd hj (by omega)⟩
    | none =>
      rw [hf] at h
      obtain ⟨i, e', err', he', hf', rfl, hbefore⟩ := ih h
      refine ⟨i + 1, e', err', he', hf', by rw [Nat.add_right_comm, Nat.add_assoc], ?_⟩
      intro j hj e'' he''
      cases j with
      | zero =>
        obtain rfl : e = e'' := Option.some.inj he''
        exact hf
      | succ j => exact hbefore j (by omega) e'' he''

/-- **The walk finds no fault if there is none.** -/
theorem fault?_eq_none_iff {e : Expression} : e.fault? = none ↔ ∀ path r, ¬ e.FaultAt path r := by
  induction e with
  | leaf l =>
    rw [Expression.fault?]
    constructor
    · intro h path r hr
      rw [(faultAt_leaf.mp hr).2] at h
      cases h
    · intro h
      cases hf : l.fault?.map EvalError.badRegex with
      | none => rfl
      | some r => exact absurd (faultAt_leaf.mpr ⟨rfl, hf⟩) (h [] r)
  | compound op es ih =>
    cases es with
    | nil =>
      rw [Expression.fault?]
      constructor
      · intro h
        cases h
      · intro h
        exact absurd (faultAt_compound.mpr (.inl ⟨rfl, rfl, rfl⟩)) (h [] _)
    | cons e es =>
      rw [Expression.fault?, faultOfAll?_eq_none_iff]
      constructor
      · intro h path r hr
        obtain ⟨-, hes, -⟩ | ⟨i, e', q, -, he', hq⟩ := faultAt_compound.mp hr
        · cases hes
        · have hmem := List.mem_of_getElem? he'
          exact (ih e' hmem).mp (h e' hmem) q r hq
      · intro h e' he'
        obtain ⟨i, hi⟩ := List.getElem?_of_mem he'
        refine (ih e' he').mpr fun q r hq => h ((i + 1) :: q) r ?_
        exact faultAt_compound.mpr (.inr ⟨i, e', q, rfl, hi, hq⟩)

/-- **The walk finds the first fault**, and tells the way to it. -/
theorem firstFaultAt_of_fault? {e : Expression} {err : EvalError} (h : e.fault? = some err) :
    ∃ path r, e.FirstFaultAt path r ∧ err = r.under path := by
  induction e generalizing err with
  | leaf l =>
    rw [Expression.fault?] at h
    exact ⟨[], err, ⟨faultAt_leaf.mpr ⟨rfl, h⟩, fun _ _ _ => List.not_lt_nil _⟩, rfl⟩
  | compound op es ih =>
    cases es with
    | nil =>
      rw [Expression.fault?] at h
      refine ⟨[], _, ⟨faultAt_compound.mpr (.inl ⟨rfl, rfl, rfl⟩), fun _ _ _ => ?_⟩,
        (Option.some.inj h).symm⟩
      exact List.not_lt_nil _
    | cons e es =>
      rw [Expression.fault?] at h
      obtain ⟨i, e', err', he', hf', rfl, hbefore⟩ := faultOfAll?_eq_some h
      obtain ⟨path, r, ⟨hfault, hfirst⟩, rfl⟩ := ih e' (List.mem_of_getElem? he') hf'
      refine ⟨(i + 1) :: path, r, ⟨faultAt_compound.mpr (.inr ⟨i, e', path, rfl, he', hfault⟩),
        ?_⟩, by rw [Nat.add_comm 1 i, EvalError.under]⟩
      intro path' r' hr' hlt
      obtain ⟨-, hes, -⟩ | ⟨j, e'', q, rfl, he'', hq⟩ := faultAt_compound.mp hr'
      · cases hes
      · rcases List.cons_lt_cons_iff.mp hlt with hj | ⟨hj, hbehind⟩
        · exact fault?_eq_none_iff.mp (hbefore j (by omega) e'' he'') q r' hq
        · obtain rfl : j = i := by omega
          obtain rfl : e' = e'' := Option.some.inj (he'.symm.trans he'')
          exact hfirst q r' hq hbehind

/-- **The error of evaluating is the way to the first faulty node.** -/
theorem evaluate_eq_error_iff_firstFaultAt {e : Expression} (h : e.Faithful) (content : String)
    {err : EvalError} :
    (e.evaluate content).1 = .error err ↔ ∃ path r, e.FirstFaultAt path r ∧ err = r.under path := by
  rw [evaluate_eq_error_iff h]
  constructor
  · exact firstFaultAt_of_fault?
  · rintro ⟨path, r, hfirst, rfl⟩
    cases hf : e.fault? with
    | none => exact absurd hfirst.1 (fault?_eq_none_iff.mp hf path r)
    | some err =>
      obtain ⟨path', r', hfirst', rfl⟩ := firstFaultAt_of_fault? hf
      obtain ⟨rfl, rfl⟩ := hfirst.unique hfirst'
      rfl

theorem exists_outcome_iff {e : Expression} (h : e.Faithful) (content : String) :
    (∃ o, (e.evaluate content).1 = .ok o) ↔ e.fault? = none := by
  cases hr : (e.evaluate content).1 with
  | ok o =>
    refine ⟨fun _ => Option.eq_none_iff_forall_ne_some.mpr fun err hf => ?_, fun _ => ⟨o, rfl⟩⟩
    rw [(evaluate_eq_error_iff h content).mpr hf] at hr
    cases hr
  | error err => simp [(evaluate_eq_error_iff h content).mp hr]

/-- Evaluating fails if there is a faulty node. -/
theorem exists_error_iff_faultAt {e : Expression} (h : e.Faithful) (content : String) :
    (∃ err, (e.evaluate content).1 = .error err) ↔ ∃ path r, e.FaultAt path r := by
  simp only [evaluate_eq_error_iff h]
  constructor
  · rintro ⟨err, hf⟩
    obtain ⟨path, r, hfirst, -⟩ := firstFaultAt_of_fault? hf
    exact ⟨path, r, hfirst.1⟩
  · rintro ⟨path, r, hfault⟩
    refine Option.ne_none_iff_exists'.mp fun hnone => ?_
    exact fault?_eq_none_iff.mp hnone path r hfault

/-! ## 3. The leaves that are come to -/

section Reached

variable {content : String} {es : List Expression} {i : Nat} {e : Expression}

/-- If all operands in front have outcomes, an operand is evaluated. -/
theorem evaluateAll_reached (content : String) (he : es[i]? = some e)
    (h : ∀ j < i, ∀ e', es[j]? = some e' → ∃ o, (e'.evaluate content).1 = .ok o) (index : Nat) :
    (Expression.evaluateAll content index es).2[i]? = some (e.evaluate content).2 := by
  induction es generalizing i index with
  | nil => cases he
  | cons e₀ es ih =>
    cases i with
    | zero =>
      obtain rfl : e₀ = e := Option.some.inj he
      cases hc : e₀.evaluate content with
      | mk result e' =>
        cases result with
        | ok o => rw [evaluateAll_cons_of_ok hc]; rfl
        | error err => rw [evaluateAll_cons_of_error hc]; rfl
    | succ i =>
      obtain ⟨o, ho⟩ := h 0 (by omega) e₀ rfl
      have hc : e₀.evaluate content = (.ok o, (e₀.evaluate content).2) := Prod.ext ho rfl
      rw [evaluateAll_cons_of_ok hc]
      exact ih he (fun j hj => h (j + 1) (by omega)) (index + 1)

/-- If some operand in front fails, an operand is left as it is. -/
theorem evaluateAll_not_reached (he : es[i]? = some e) {j : Nat} (hj : j < i) {e' : Expression}
    (he' : es[j]? = some e') {err : EvalError} (h : (e'.evaluate content).1 = .error err)
    (index : Nat) : (Expression.evaluateAll content index es).2[i]? = some e := by
  induction es generalizing i j index with
  | nil => cases he
  | cons e₀ es ih =>
    obtain ⟨i, rfl⟩ : ∃ i', i = i' + 1 := ⟨i - 1, by omega⟩
    cases hc : e₀.evaluate content with
    | mk result e₀' =>
      cases result with
      | error err' =>
        rw [evaluateAll_cons_of_error hc]
        exact he
      | ok o =>
        rw [evaluateAll_cons_of_ok hc]
        cases j with
        | zero =>
          obtain rfl : e₀ = e' := Option.some.inj he'
          rw [hc] at h
          cases h
        | succ j => exact ih he (by omega) he' (index + 1)

end Reached

/-- The leaf or operator at `path` stands in front of every faulty node. -/
def Expression.BeforeFaults (e : Expression) (path : List Nat) : Prop :=
  ∀ path' r, e.FaultAt path' r → path < path'

/-- In front of all faults of a compound means: no operand before it has a fault, and in front of
    the faults of its own operand. -/
theorem beforeFaults_compound {op : Operator} {es : List Expression} {i : Nat} {e : Expression}
    {q : List Nat} (he : es[i]? = some e) :
    (Expression.compound op es).BeforeFaults ((i + 1) :: q) ↔
      (∀ j < i, ∀ e', es[j]? = some e' → e'.fault? = none) ∧ e.BeforeFaults q := by
  constructor
  · intro h
    refine ⟨fun j hj e' he' => fault?_eq_none_iff.mpr fun p r hp => ?_, fun p r hp => ?_⟩
    · have hlt := h _ r (faultAt_compound.mpr (.inr ⟨j, e', p, rfl, he', hp⟩))
      rcases List.cons_lt_cons_iff.mp hlt with hlt | ⟨heq, -⟩ <;> omega
    · have hlt := h _ r (faultAt_compound.mpr (.inr ⟨i, e, p, rfl, he, hp⟩))
      rcases List.cons_lt_cons_iff.mp hlt with hlt | ⟨-, hlt⟩
      · omega
      · exact hlt
  · rintro ⟨hearlier, hown⟩ path' r hr
    obtain ⟨-, rfl, -⟩ | ⟨j, e', p, rfl, he', hp⟩ := faultAt_compound.mp hr
    · cases he
    rcases Nat.lt_trichotomy j i with hj | rfl | hj
    · exact absurd hp (fault?_eq_none_iff.mp (hearlier j hj e' he') p r)
    · obtain rfl : e = e' := Option.some.inj (he.symm.trans he')
      exact List.cons_lt_cons_iff.mpr (.inr ⟨rfl, hown p r hp⟩)
    · exact List.cons_lt_cons_iff.mpr (.inl (by omega))

theorem leafCompile_of_fault {l : Leaf} (h : l.Faithful) {x : RegexError}
    (hx : l.fault? = some x) : l.compile.2 = l := by
  obtain ⟨hkind, herror⟩ := leafFault?_eq_some_iff.mp hx
  unfold Leaf.compile Leaf.remember
  rw [hkind, regex_eq_compileRegex h, herror]

/-- A leaf that can be compiled has its regular expression afterwards, if it is one. -/
theorem leafCompile_hasRegex {l : Leaf} (h : l.Faithful) (hc : l.Compiles) :
    l.compile.2.hasRegex = true ↔ l.hasRegex = true ∨ l.kind = .regex := by
  have hok := (leafCompile_eq_ok_iff h).mpr hc
  unfold Leaf.compile at hok ⊢
  cases hkind : l.kind with
  | string => simp
  | regex =>
    rw [hkind] at hok
    obtain ⟨r, hr, -⟩ := map_eq_ok_iff.mp hok
    simp [Leaf.remember, hr, Leaf.hasRegex]

/-- **Evaluating comes to the leaves in front of all faults**, and to no other. -/
theorem evaluate_node? {e : Expression} (h : e.Faithful) (content : String) {path : List Nat}
    {l : Leaf} (hl : e.node? path = some (.leaf l)) :
    (e.BeforeFaults path → (e.evaluate content).2.node? path = some (.leaf l.compile.2)) ∧
      (¬ e.BeforeFaults path → (e.evaluate content).2.node? path = some (.leaf l)) := by
  induction e generalizing path with
  | leaf l₀ =>
    obtain ⟨rfl, hleaf⟩ := node?_leaf.mp hl
    obtain rfl : l = l₀ := Expression.leaf.inj hleaf
    rw [Expression.evaluate]
    refine ⟨fun _ => rfl, fun hnot => node?_leaf.mpr ⟨rfl, ?_⟩⟩
    unfold Expression.BeforeFaults at hnot
    push Not at hnot
    obtain ⟨path', r, hr, -⟩ := hnot
    obtain ⟨x, hx, -⟩ := Option.map_eq_some_iff.mp (faultAt_leaf.mp hr).2
    exact congrArg _ (leafCompile_of_fault (faithful_leaf.mp h) hx).symm
  | compound op es ih =>
    obtain ⟨-, hcompound⟩ | ⟨i, e, q, rfl, he, hq⟩ := node?_compound.mp hl
    · cases hcompound
    have h : ∀ e ∈ es, e.Faithful := faithful_compound.mp h
    have hmem := List.mem_of_getElem? he
    obtain ⟨ihBefore, ihBehind⟩ := ih e hmem (h e hmem) hq
    obtain ⟨e₀, es', rfl⟩ := List.exists_cons_of_ne_nil (List.ne_nil_of_mem hmem)
    rw [evaluate_cons, beforeFaults_compound he]
    by_cases hearlier : ∀ j < i, ∀ e', (e₀ :: es')[j]? = some e' → e'.fault? = none
    · have hreached := evaluateAll_reached content he (fun j hj e' he' =>
        (exists_outcome_iff (h e' (List.mem_of_getElem? he')) content).mpr
          (hearlier j hj e' he')) 1
      refine ⟨fun hbefore => ?_, fun hnot => ?_⟩
      · exact node?_compound.mpr (.inr ⟨i, _, q, rfl, hreached, ihBefore hbefore.2⟩)
      · have hown : ¬ e.BeforeFaults q := fun hq => hnot ⟨hearlier, hq⟩
        exact node?_compound.mpr (.inr ⟨i, _, q, rfl, hreached, ihBehind hown⟩)
    · refine ⟨fun hbefore => absurd hbefore.1 hearlier, fun _ => ?_⟩
      push Not at hearlier
      obtain ⟨j, hj, e', he', hfault⟩ := hearlier
      obtain ⟨err, herr⟩ := Option.ne_none_iff_exists'.mp hfault
      have hfails := (evaluate_eq_error_iff (h e' (List.mem_of_getElem? he')) content).mpr herr
      have hsame := evaluateAll_not_reached he hj he' hfails 1
      exact node?_compound.mpr (.inr ⟨i, e, q, rfl, hsame, hq⟩)

/-- A leaf has its regular expression afterwards if it had it, or is a regular expression in front
    of all faults. -/
theorem evaluate_hasRegex {e : Expression} (h : e.Faithful) (content : String) {path : List Nat}
    {l : Leaf} (hl : e.node? path = some (.leaf l)) :
    ∃ l', (e.evaluate content).2.node? path = some (.leaf l') ∧ l'.same l = true ∧
      (l'.hasRegex = true ↔
        l.hasRegex = true ∨ (l.kind = .regex ∧ e.BeforeFaults path)) := by
  obtain ⟨hbefore, hbehind⟩ := evaluate_node? h content hl
  have hf : l.Faithful := h l (mem_leaves_of_node? hl)
  by_cases hfirst : e.BeforeFaults path
  · have hsame := leaf_same_iff.mpr (leafCompile_learned hf).1
    refine ⟨_, hbefore hfirst, hsame, ?_⟩
    have hc : l.Compiles := by
      rw [← leafFault?_eq_none_iff]
      cases hx : l.fault? with
      | none => rfl
      | some x =>
        have hown : (Expression.leaf l).ownFault? = some (.badRegex x) := by
          rw [Expression.ownFault?, hx]
          rfl
        exact absurd (hfirst path _ ⟨_, hl, hown⟩) (List.lt_irrefl path)
    rw [leafCompile_hasRegex hf hc]
    simp [hfirst]
  · refine ⟨l, hbehind hfirst, leaf_same_iff.mpr rfl, ?_⟩
    simp [hfirst]

/-! ## 4. Compiling ahead -/

section Populated

variable {e : Expression} {content : String}

/-- Both walks fail, or neither does, and for the same cause. -/
theorem compile_eq_error_iff_evaluate (h : e.Faithful) (hp : e.Populated) (content : String)
    (x : RegexError) :
    e.compile.1 = .error x ↔
      ∃ err, (e.evaluate content).1 = .error err ∧ err.cause = .badRegex x := by
  have hcause := cause_of_fault? hp
  rw [compile_eq_error_iff h]
  simp only [evaluate_eq_error_iff h]
  constructor
  · intro hx
    rw [hx] at hcause
    exact Option.map_eq_some_iff.mp hcause
  · rintro ⟨err, hf, hx⟩
    rw [hf, Option.map_some, hx] at hcause
    obtain ⟨y, hy, heq⟩ := Option.map_eq_some_iff.mp hcause.symm
    rw [hy, EvalError.badRegex.inj heq]

theorem compileAll_eq_evaluateAll {es : List Expression} (h : ∀ e ∈ es, e.Faithful)
    (hp : ∀ e ∈ es, e.Populated) (hsame : ∀ e ∈ es, e.compile.2 = (e.evaluate content).2)
    (index : Nat) :
    (Expression.compileAll es).2 = (Expression.evaluateAll content index es).2 := by
  induction es generalizing index with
  | nil => simp [Expression.compileAll, Expression.evaluateAll]
  | cons e es ih =>
    obtain ⟨he, hes⟩ := List.forall_mem_cons.mp h
    obtain ⟨hpe, hpes⟩ := List.forall_mem_cons.mp hp
    obtain ⟨hse, hses⟩ := List.forall_mem_cons.mp hsame
    have hiff := compile_eq_error_iff_evaluate he hpe content
    cases hc : e.compile with
    | mk result e' =>
      cases hv : e.evaluate content with
      | mk result' e'' =>
        rw [hc, hv] at hse hiff
        obtain rfl : e' = e'' := hse
        cases result with
        | ok u =>
          cases result' with
          | ok o => rw [compileAll_cons_of_ok hc, evaluateAll_cons_of_ok hv, ih hes hpes hses]
          | error err =>
            have herr : (e.evaluate content).1 = .error err := by rw [hv]
            obtain ⟨x, hx⟩ := cause_of_evaluate he hpe herr
            cases (hiff x).mpr ⟨err, rfl, hx⟩
        | error x =>
          obtain ⟨err, herr, -⟩ := (hiff x).mp rfl
          obtain rfl : result' = .error err := herr
          rw [compileAll_cons_of_error hc, evaluateAll_cons_of_error hv]

/-- **Where every operator has operands, both walks compile the same leaves.** -/
theorem compile_eq_evaluate (h : e.Faithful) (hp : e.Populated) :
    e.compile.2 = (e.evaluate content).2 := by
  induction e with
  | leaf l => rw [Expression.compile, Expression.evaluate]; rfl
  | compound op es ih =>
    obtain ⟨hes, hp⟩ := populated_compound.mp hp
    have h : ∀ e ∈ es, e.Faithful := faithful_compound.mp h
    obtain ⟨e₀, es', rfl⟩ := List.exists_cons_of_ne_nil hes
    rw [compile_compound, evaluate_cons]
    exact congrArg _ (compileAll_eq_evaluateAll h hp (fun e he => ih e he (h e he) (hp e he)) 1)

end Populated

/-- **An error of evaluating is the way to the first faulty node.** Whatever an expression looks
    like, it has no outcome on a text if and only if some node of it is faulty: an operator without
    operands, or a regular expression that cannot be compiled. The error then leads along the
    positions of the operands to the first such node from left to right and says what is wrong with
    it, which is its cause. The leaves that come to have their regular expression are those in front
    of that node, or all if there is none. Where every operator has operands, compiling ahead fails
    with the same cause and leaves the same expression. -/
theorem evaluate_points_at_first_fault {e : Expression} (h : ∀ l ∈ e.leaves, l.Arises)
    (content : String) :
    ((∃ err, (e.evaluate content).1 = .error err) ↔ ∃ path r, e.FaultAt path r) ∧
    (∀ err, (e.evaluate content).1 = .error err ↔
      ∃ path r, e.FirstFaultAt path r ∧ err = r.under path ∧ err.cause = r) ∧
    (∀ path l, e.node? path = some (.leaf l) →
      ∃ l', (e.evaluate content).2.node? path = some (.leaf l') ∧ l'.same l = true ∧
        (l'.hasRegex = true ↔ l.hasRegex = true ∨
          (l.kind = .regex ∧ ∀ path' r, e.FaultAt path' r → path < path'))) ∧
    (e.Populated →
      (∀ x, e.compile.1 = .error x ↔
        ∃ err, (e.evaluate content).1 = .error err ∧ err.cause = .badRegex x) ∧
      e.compile.2 = (e.evaluate content).2) := by
  have hf : e.Faithful := fun l hl => arises_iff_faithful.mp (h l hl)
  refine ⟨exists_error_iff_faultAt hf content, fun err => ?_,
    fun path l hl => evaluate_hasRegex hf content hl,
    fun hp => ⟨compile_eq_error_iff_evaluate hf hp content, compile_eq_evaluate hf hp⟩⟩
  rw [evaluate_eq_error_iff_firstFaultAt hf content]
  constructor
  · rintro ⟨path, r, hfirst, rfl⟩
    exact ⟨path, r, hfirst, rfl, cause_under hfirst.1 path⟩
  · rintro ⟨path, r, hfirst, rfl, -⟩
    exact ⟨path, r, hfirst, rfl⟩

end Engine

theorem evaluate_points_at_first_fault_nested :
    ∃ e : Expression, e = .compound .and [.leaf (.fresh .string "a"),
        .compound .or [.leaf (.fresh .regex "b"), .compound .and [], .leaf (.fresh .regex "c")]] ∧
      (∃ path r, e.FirstFaultAt path r ∧ (e.evaluate "b").1 = .error (r.under path)) ∧
      ∃ l', (e.evaluate "b").2.node? [2, 3] = some (.leaf l') ∧ l'.hasRegex = false := by
  refine ⟨_, rfl, ?_⟩
  obtain ⟨hiff, herror, hleaves, -⟩ := evaluate_points_at_first_fault
    (e := .compound .and [.leaf (.fresh .string "a"),
      .compound .or [.leaf (.fresh .regex "b"), .compound .and [], .leaf (.fresh .regex "c")]])
    (by simpa using ⟨.inl rfl, .inl rfl, .inl rfl⟩) "b"
  obtain ⟨err, herr⟩ := hiff.mpr ⟨[2, 2], .emptyCompound .and, _, rfl, rfl⟩
  obtain ⟨path, r, hfirst, rfl, -⟩ := (herror err).mp herr
  obtain ⟨l', hl', -, hregex⟩ := hleaves [2, 3] (.fresh .regex "c") rfl
  refine ⟨⟨path, r, hfirst, herr⟩, l', hl', Bool.eq_false_iff.mpr fun htrue => ?_⟩
  rcases hregex.mp htrue with hold | ⟨-, hbefore⟩
  · cases hold
  · have hlt := hbefore [2, 2] (.emptyCompound .and) ⟨_, rfl, rfl⟩
    revert hlt
    decide

end PageWatch.Pattern
