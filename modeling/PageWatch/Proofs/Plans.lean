import PageWatch.Proofs.Complete
import PageWatch.Proofs.Written
import PageWatch.Watch.Poll

/-!
# Plans and their memories

A plan is made with faithful memories and keeps them faithful over every poll, so **what a plan has
compiled cannot be seen in the result of a poll** (`Plan.Learned.poll`). `Watch.plan_eq_ok_iff`
says which plan a watch has: the plan of the search of the checked watch.
-/

namespace PageWatch

open PageWatch.Pattern

variable [Regex.Engine]

/-! ## 1. Searches made ready -/

/-- **What a search becomes**: a leaf that is read as the rules want it, or a parsed expression. -/
theorem expression_cases {s : Search} {rules : Rules} {e : Expression}
    (h : s.expression rules = .ok e) :
    (s.mode = .string ∧ e = .leaf (.fresh .string s.pattern)) ∨
      (s.mode = .regex ∧ rules.Readies (.leaf (.fresh .regex s.pattern)) e) ∨
      (s.mode = .compound ∧ parse s.pattern rules = .ok e) := by
  unfold Search.expression at h
  cases hmode : s.mode with
  | string =>
    rw [hmode] at h
    exact .inl ⟨rfl, (Except.ok.inj h).symm⟩
  | regex =>
    rw [hmode] at h
    refine .inr (.inl ⟨rfl, ?_⟩)
    unfold Rules.Readies
    dsimp only at h
    split at h
    · next hahead =>
      rw [if_pos hahead]
      split at h
      · next e' he' =>
        cases h
        exact he'
      · cases h
    · next hahead =>
      rw [if_neg hahead]
      exact (Except.ok.inj h).symm
  | compound =>
    rw [hmode] at h
    refine .inr (.inr ⟨rfl, ?_⟩)
    dsimp only at h
    split at h
    · next e' he' => rwa [Except.ok.inj h] at he'
    · cases h

/-- A new leaf remembers nothing. -/
theorem faithful_fresh (kind : LeafKind) (pattern : String) :
    (Expression.leaf (.fresh kind pattern)).Faithful :=
  faithful_of_forget_eq (forget_leaf _)

/-- A search is made ready with faithful memories. -/
theorem faithful_of_expression {s : Search} {rules : Rules} {e : Expression}
    (h : s.expression rules = .ok e) : e.Faithful := by
  rcases expression_cases h with ⟨-, rfl⟩ | ⟨-, hr⟩ | ⟨-, hp⟩
  · exact faithful_fresh _ _
  · exact (hr.learned (faithful_fresh _ _)).faithful
  · exact faithful_of_parse hp

theorem Watch.plan_eq_ok_iff {w w' : Watch} {rules : Rules} {p : Plan} :
    w.plan rules = (.ok p, w') ↔
      w.check = (.ok (), w') ∧ Plan.ofSearch w'.search rules = .ok p := by
  unfold Watch.plan
  obtain ⟨result, c⟩ := w.check
  cases result with
  | error e => simp
  | ok u =>
    constructor
    · intro h
      obtain ⟨hp, rfl⟩ := Prod.mk.inj h
      exact ⟨rfl, hp⟩
    · rintro ⟨hc, hp⟩
      obtain ⟨-, rfl⟩ := Prod.mk.inj hc
      exact Prod.ext hp rfl

/-! ## 2. Polling with a plan that remembers -/

/-- `p'` is `p`, with faithful memories. -/
structure Plan.Learned (p p' : Plan) : Prop where
  mode_eq : p'.mode = p.mode
  pattern_eq : p'.pattern = p.pattern
  expression : p.expression.Learned p'.expression

theorem Plan.Learned.same {p p' : Plan} (h : p.Learned p') : p'.same p = true := by
  have he : p'.expression.same p.expression = true :=
    same_iff_forget_eq.mpr h.expression.forget_eq
  have hbeq : (p'.expression == p.expression) = true := he
  simp [Plan.same, h.mode_eq, h.pattern_eq, hbeq]

theorem Plan.learned_self {s : Search} {rules : Rules} {p : Plan}
    (h : Plan.ofSearch s rules = .ok p) : p.Learned p := by
  unfold Plan.ofSearch at h
  split at h
  · cases h
  · obtain ⟨e, he, rfl⟩ := map_eq_ok_iff.mp h
    exact ⟨rfl, rfl, rfl, faithful_of_expression he⟩

/-- **A poll does not tell plans apart that differ in faithful memories**, and leaves them so. -/
theorem Plan.Learned.poll {p p' : Plan} (h : p.Learned p') (hp : p.Learned p) (watch : Watch)
    (fetch : PageFetch) :
    (p'.poll watch fetch).1 = (p.poll watch fetch).1 ∧
      p.Learned (p'.poll watch fetch).2 := by
  unfold Plan.poll
  cases fetch watch with
  | error e => exact ⟨rfl, h⟩
  | ok content =>
    have hresult : (p'.expression.evaluate content).1 = (p.expression.evaluate content).1 := by
      rw [← evaluate_forget h.expression.faithful, ← evaluate_forget hp.expression.faithful,
        h.expression.forget_eq]
    have hlearned := evaluate_learned h.expression.faithful content
    have hafter : p.Learned (p'.run content).2 :=
      ⟨h.mode_eq, h.pattern_eq, hlearned.forget_eq.trans h.expression.forget_eq,
        hlearned.faithful⟩
    have hrun : (p'.run content).1 = (p.run content).1 := hresult
    dsimp only
    cases hr' : p'.run content with
    | mk result' q' =>
      cases hr : p.run content with
      | mk result q =>
        rw [hr', hr] at hrun
        obtain rfl : result' = result := hrun
        rw [hr'] at hafter
        cases result' with
        | ok o => exact ⟨rfl, hafter⟩
        | error e => exact ⟨rfl, hafter⟩

end PageWatch
