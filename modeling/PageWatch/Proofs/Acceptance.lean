import PageWatch.Proofs.CompileAhead
import PageWatch.Proofs.Runs

/-!
# What acceptance promises

A search that was accepted under rules that compile ahead has an outcome on every page. Under any
rules an accepted search fails in one way only: some regular expression in it cannot be compiled.

* `Plan.after`: a plan that has been run on some pages already; the promise does not depend on
  them;
* `Monitor.Holds.poll_cases`: **a poll of a monitor fails because the page could not be had, and
  for no other reason**, in whatever state its plan is;
* `exists_step_of_mem_run`: every answer of a run is the answer to one call, in the state that the
  calls before it led to.

Main statement: `accepted_never_fails`.
-/

namespace PageWatch

open PageWatch.Pattern

section Engine

variable [Regex.Engine]

/-! ## 1. Plans -/

/-- The plan after it was run on some pages. -/
def Plan.after (p : Plan) (contents : List String) : Plan :=
  contents.foldl (fun p content => (p.run content).2) p

section Plans

variable {s : Search} {rules : Rules} {p : Plan}

theorem Plan.Learned.run {p p' : Plan} (h : p.Learned p') (content : String) :
    p.Learned (p'.run content).2 := by
  have hl := evaluate_learned h.expression.faithful content
  exact ⟨h.mode_eq, h.pattern_eq, hl.forget_eq.trans h.expression.forget_eq, hl.faithful⟩

theorem Plan.Learned.after {p p' : Plan} (h : p.Learned p') (contents : List String) :
    p.Learned (p'.after contents) := by
  induction contents generalizing p' with
  | nil => exact h
  | cons content contents ih => exact ih (h.run content)

theorem populated_of_expression {e : Expression} (h : s.expression rules = .ok e) :
    e.Populated := by
  rcases expression_cases h with ⟨-, rfl⟩ | ⟨-, hr⟩ | ⟨-, hp⟩
  · exact .leaf _
  · exact (hr.learned (faithful_fresh _ _)).populated (.leaf _)
  · exact populated_of_parse hp

/-- **Under rules that compile ahead, an accepted search has no fault left.** -/
theorem compiles_of_expression {e : Expression} (hahead : rules.compileAhead = true)
    (h : s.expression rules = .ok e) : ∀ l ∈ e.leaves, l.Compiles := by
  rcases expression_cases h with ⟨-, rfl⟩ | ⟨-, hr⟩ | ⟨-, hp⟩
  · rw [leaves_leaf, List.forall_mem_singleton]
    exact nofun
  · exact hr.compiles (faithful_fresh _ _) hahead
  · exact compiles_of_parse hahead hp

theorem expression_of_plan (h : Plan.ofSearch s rules = .ok p) :
    s.expression rules = .ok p.expression := by
  unfold Plan.ofSearch at h
  split at h
  · cases h
  · obtain ⟨e, he, rfl⟩ := map_eq_ok_iff.mp h
    exact he

/-- **An accepted search has an outcome on every page**, whatever its plan remembers. -/
theorem exists_outcome_of_plan (hahead : rules.compileAhead = true)
    (h : Plan.ofSearch s rules = .ok p) {p' : Plan} (hl : p.Learned p') (content : String) :
    ∃ o, (p'.run content).1 = .ok o := by
  have he := expression_of_plan h
  exact exists_outcome hl.expression.faithful
    (hl.expression.populated (populated_of_expression he))
    (hl.expression.compiles (compiles_of_expression hahead he)) content

theorem cause_of_plan (h : Plan.ofSearch s rules = .ok p) {p' : Plan} (hl : p.Learned p')
    {content : String} {err : EvalError} (herr : (p'.run content).1 = .error err) :
    ∃ x, err.cause = .badRegex x :=
  cause_of_evaluate hl.expression.faithful
    (hl.expression.populated (populated_of_expression (expression_of_plan h))) herr

end Plans

/-! ## 2. Polls -/

/-- The poll that a call asks for. -/
def Call.visit? : Call → Option Visit
  | .poll v => some v
  | .round v _ _ => some v
  | .replace _ => none

/-- The result of the poll that an answer is about. -/
def Answer.result? : Answer → Option PollResult
  | .polled result _ => some result
  | .rounded round _ => some round.result
  | .replaced _ => none

section Polls

variable {m : Monitor} {rules : Rules} {current : Watch}

theorem poll_of_run_ok {p p' : Plan} {watch : Watch} {fetch : PageFetch} {content : String}
    {o : Outcome} (hfetch : fetch watch = .ok content) (h : p.run content = (.ok o, p')) :
    p.poll watch fetch = (.verdict o, p') := by
  rw [Plan.poll, hfetch]
  dsimp only
  rw [h]

/-- **A poll fails only with the error of the page.** -/
theorem Monitor.Holds.poll_cases (h : m.Holds rules current) (hahead : rules.compileAhead = true)
    (v : Visit) :
    (∃ err, v.fetch m.watch = .error err ∧ (m.poll v).1 = .failed (.page err)) ∨
      ∃ o, (m.poll v).1 = .verdict o := by
  show (∃ err, _ ∧ (m.plan.poll m.watch v.fetch).1 = _) ∨ ∃ o, (m.plan.poll m.watch v.fetch).1 = _
  cases hfetch : v.fetch m.watch with
  | error err =>
    refine .inl ⟨err, rfl, ?_⟩
    rw [Plan.poll, hfetch]
  | ok content =>
    obtain ⟨p, hp, hl⟩ := h.planned
    obtain ⟨o, ho⟩ := exists_outcome_of_plan hahead hp hl content
    have hrun : m.plan.run content = (.ok o, (m.plan.run content).2) := Prod.ext ho rfl
    exact .inr ⟨o, by rw [poll_of_run_ok hfetch hrun]⟩

theorem round_result (m : Monitor) (v : Visit) (channels : List Channel) (timestamp : Nat) :
    (m.round v channels timestamp).1.result = (m.poll v).1 := by
  unfold Monitor.round
  dsimp only
  split <;> rfl

theorem result_of_step {call : Call} {result : PollResult}
    (h : (m.step call).1.result? = some result) :
    ∃ v, call.visit? = some v ∧ result = (m.poll v).1 := by
  cases call with
  | poll v => exact ⟨v, rfl, (Option.some.inj h).symm⟩
  | round v channels timestamp =>
    have h : (m.round v channels timestamp).1.result = result := Option.some.inj h
    exact ⟨v, rfl, h.symm.trans (round_result m v channels timestamp)⟩
  | replace w => cases h

/-- **Every answer of a run answers one call**, in the state that the calls before it led to. -/
theorem exists_step_of_mem_run {calls : List Call} {answer : Answer}
    (h : answer ∈ (m.run calls).1) :
    ∃ before call after, calls = before ++ call :: after ∧
      answer = ((m.run before).2.step call).1 := by
  induction calls generalizing m with
  | nil => cases h
  | cons call calls ih =>
    have h : answer ∈ (m.step call).1 :: ((m.step call).2.run calls).1 := h
    rcases List.mem_cons.mp h with rfl | h
    · exact ⟨[], call, calls, rfl, rfl⟩
    · obtain ⟨before, call', after, rfl, hanswer⟩ := ih h
      exact ⟨call :: before, call', after, rfl, hanswer⟩

/-- In every state of a run, a call fails only with the error of the page. -/
theorem page_error_of_step {w : Watch} {m₀ : Monitor} (hahead : rules.compileAhead = true)
    (h : Monitor.start w rules = .ok m₀) (calls : List Call) {call : Call} {result : PollResult}
    (hresult : ((m₀.run calls).2.step call).1.result? = some result)
    (hfailed : result.isFailed = true) :
    ∃ v err, call.visit? = some v ∧ v.fetch (m₀.run calls).2.watch = .error err ∧
      result = .failed (.page err) := by
  obtain ⟨v, hv, rfl⟩ := result_of_step hresult
  rcases (run_holds (holds_of_start h) calls).2.poll_cases hahead v with
    ⟨err, hfetch, hpoll⟩ | ⟨o, hpoll⟩
  · exact ⟨v, err, hv, hfetch, hpoll⟩
  · rw [hpoll] at hfailed
    cases hfailed

end Polls

/-! ## 3. The promise -/

/-- **What was accepted does not fail later.** (1) The plan of a search, also after it was run on
    some pages, fails only because some regular expression in it cannot be compiled; under rules
    that compile ahead it has an outcome on every page. (2) Along every run of a monitor under such
    rules no answer tells of a search that failed, and a poll that fails in any state of the run
    fails with the error of its page. (3) Searching a text directly never fails while
    evaluating. -/
theorem accepted_never_fails :
    (∀ (s : Search) (rules : Rules) (p : Plan), Plan.ofSearch s rules = .ok p →
      ∀ contents content,
        (rules.compileAhead = true → ∃ o, ((p.after contents).run content).1 = .ok o) ∧
        ∀ err, ((p.after contents).run content).1 = .error err → ∃ x, err.cause = .badRegex x) ∧
    (∀ (w : Watch) (rules : Rules) (m₀ : Monitor), rules.compileAhead = true →
      Monitor.start w rules = .ok m₀ → ∀ calls,
        (∀ answer ∈ (m₀.run calls).1, ∀ result, answer.result? = some result →
          ∀ err, result ≠ .failed (.search err)) ∧
        ∀ call result, ((m₀.run calls).2.step call).1.result? = some result →
          result.isFailed = true → ∃ v err, call.visit? = some v ∧
            v.fetch (m₀.run calls).2.watch = .error err ∧ result = .failed (.page err)) ∧
    ∀ pattern content err, searchText pattern content ≠ .error (.eval err) := by
  refine ⟨fun s rules p h contents content => ?_, fun w rules m₀ hahead h calls => ?_, ?_⟩
  · have hl := (Plan.learned_self h).after contents
    exact ⟨fun hahead => exists_outcome_of_plan hahead h hl content, fun err => cause_of_plan h hl⟩
  · refine ⟨fun answer hanswer result hresult err hsearch => ?_,
      fun call result => page_error_of_step hahead h calls⟩
    obtain ⟨before, call, after, -, rfl⟩ := exists_step_of_mem_run hanswer
    subst hsearch
    obtain ⟨v, err', -, -, hpage⟩ := page_error_of_step hahead h before hresult rfl
    cases hpage
  · intro pattern content err h
    unfold searchText at h
    split at h
    · cases h
    · next e he =>
      obtain ⟨o, ho⟩ := exists_outcome (faithful_of_parse he) (populated_of_parse he)
        (compiles_of_parse rfl he) content
      rw [ho] at h
      cases h

end Engine

theorem accepted_never_fails_regex :
    (∃ p, Plan.ofSearch ⟨.regex, "a+", "", .found⟩ {} = .ok p ∧
      ∃ o, ((p.after ["b"]).run "caab").1 = .ok o) ∧
    (∃ p err x, Plan.ofSearch ⟨.regex, "[", "", .found⟩ ⟨32, false⟩ = .ok p ∧
      (p.run "caab").1 = .error err ∧ err.cause = .badRegex x) ∧
    ∃ m₀, Monitor.start
        ⟨"u", ⟨.regex, "a+", "", .found⟩, ⟨none, some ⟨"d"⟩, none⟩, 0, .http⟩ {} = .ok m₀ ∧
      (∀ result, (m₀.poll ⟨fun _ => .ok "caab", none⟩).1 = result →
        ∀ err, result ≠ .failed (.search err)) ∧
      ∃ err, (m₀.poll ⟨fun _ => .error (.extraction "x"), none⟩).1 = .failed (.page err) := by
  have hcompiles : (Regex.Engine.compile "a+").isOk = true := by decide +kernel
  have hrefused : (Regex.Engine.compile "[").isOk = false := by decide +kernel
  -- A plan that was compiled ahead, and a monitor with it.
  obtain ⟨p, hp⟩ : ∃ p, Plan.ofSearch ⟨.regex, "a+", "", .found⟩ {} = .ok p := by
    obtain ⟨e, he⟩ : ∃ e, Rules.Readies {} (.leaf (.fresh .regex "a+")) e :=
      Rules.exists_readies (faithful_fresh .regex "a+")
        fun _ => by simpa [Leaf.Compiles, Leaf.fresh] using hcompiles
    rw [Rules.Readies, if_pos rfl] at he
    refine ⟨⟨.regex, "a+", e⟩, ?_⟩
    simp only [Plan.ofSearch, Rules.check, Search.expression]
    rw [he]
    rfl
  have hstart := start_of_plan_ok (Watch.plan_eq_ok_iff.mpr ⟨rfl, hp⟩ :
    Watch.plan ⟨"u", ⟨.regex, "a+", "", .found⟩, ⟨none, some ⟨"d"⟩, none⟩, 0, .http⟩ {} = (.ok p, _))
  -- A plan that was not, and cannot be.
  have hlazy : Plan.ofSearch ⟨.regex, "[", "", .found⟩ ⟨32, false⟩ =
      .ok ⟨.regex, "[", .leaf (.fresh .regex "[")⟩ := rfl
  obtain ⟨y, hbad⟩ : ∃ y, (Expression.leaf (.fresh .regex "[")).firstBadRegex? = some y := by
    refine Option.ne_none_iff_exists'.mp fun hnone => ?_
    have hcompiles := firstBadRegex?_eq_none_iff.mp hnone (.fresh .regex "[") (by simp) rfl
    rw [Leaf.fresh, hrefused] at hcompiles
    cases hcompiles
  obtain ⟨err, herr, -⟩ := evaluate_of_firstBadRegex? (faithful_fresh _ _) (.leaf _) hbad "caab"
  obtain ⟨x, hx⟩ := (accepted_never_fails.1 _ _ _ hlazy [] "caab").2 err herr
  obtain ⟨hanswers, -⟩ := accepted_never_fails.2.1 _ _ _ rfl hstart
    [.poll ⟨fun _ => .ok "caab", none⟩]
  obtain ⟨-, hpage⟩ := accepted_never_fails.2.1 _ _ _ rfl hstart []
  obtain ⟨-, err', -, -, hfailed⟩ :=
    hpage (.poll ⟨fun _ => .error (.extraction "x"), none⟩) _ rfl rfl
  refine ⟨⟨p, hp, (accepted_never_fails.1 _ _ _ hp ["b"] "caab").1 rfl⟩,
    ⟨_, err, x, hlazy, herr, hx⟩, _, hstart, ?_, err', hfailed⟩
  rintro result rfl
  exact hanswers _ (List.mem_singleton_self _) _ rfl

end PageWatch
