import PageWatch.Monitor
import PageWatch.Proofs.Plans

/-!
# Runs of a monitor

A run is any list of calls: polls, rounds and replacements, each with whatever the page, the
channels and the given watches turn out to be, also with a watch given in the middle of a poll.

The reference has no state but the watch in force, which is the last watch that was accepted, with
its defaults filled in: it answers a call as a monitor would that was started for this watch just
now (`freshAnswer`). Main statement: **a monitor is the reference** (`run_eq_reference`).

The invariant is `Monitor.Holds`: the monitor has the watch in force, which passes its check
unchanged, and the plan of its search, with faithful memories. `step_holds` is the step lemma, and
`answer_eq` says that the answers of two monitors that hold the same watch are the same.
-/

namespace PageWatch

open PageWatch.Pattern

/-! ## 1. Calls -/

/-- What a monitor is asked to do. -/
inductive Call where
  | poll (v : Visit)
  | round (v : Visit) (channels : List Channel) (timestamp : Nat)
  | replace (watch : Watch)

/-- What a monitor answers. With a poll or a round goes what it says to the watch that it is given
    meanwhile. -/
inductive Answer where
  | polled (result : PollResult) (meanwhile : Option (Except WatchError Unit))
  | rounded (round : Round) (meanwhile : Option (Except WatchError Unit))
  | replaced (result : Except WatchError Unit)

/-- The watch that a monitor is given in a call. -/
def Call.watch? : Call → Option Watch
  | .poll v => v.replacement
  | .round v _ _ => v.replacement
  | .replace watch => some watch

section Engine

variable [Regex.Engine]

namespace Monitor

/-- What the monitor says to a watch that it is given. -/
def replaceAnswer (m : Monitor) (watch : Watch) : Except WatchError Unit :=
  (m.replace watch).map fun _ => ()

/-- The monitor after it was given a watch. -/
def replaced (m : Monitor) (watch : Watch) : Monitor := (m.replace watch).toOption.getD m

/-- **One call**: its answer, and the monitor afterwards. -/
def step (m : Monitor) : Call → Answer × Monitor
  | .poll v => (.polled (m.poll v).1 (v.replacement.map m.replaceAnswer), (m.poll v).2)
  | .round v channels timestamp =>
    (.rounded (m.round v channels timestamp).1 (v.replacement.map m.replaceAnswer),
      (m.round v channels timestamp).2)
  | .replace watch => (.replaced (m.replaceAnswer watch), m.replaced watch)

/-- **A run**: the answers to its calls, and the monitor at its end. -/
def run (m : Monitor) : List Call → List Answer × Monitor
  | [] => ([], m)
  | call :: calls =>
    let (answer, m) := m.step call
    let (answers, m) := m.run calls
    (answer :: answers, m)

end Monitor

/-! ## 2. The reference -/

/-- The watch in force after a watch was given: the given one with its defaults filled in, if it
    can be made ready, else still the old one. -/
def Watch.accept (current : Watch) (rules : Rules) (watch : Watch) : Watch :=
  match watch.plan rules with
  | (.ok _, watch) => watch
  | (.error _, _) => current

/-- The watch in force after a call. -/
def Watch.after (current : Watch) (rules : Rules) (call : Call) : Watch :=
  match call.watch? with
  | none => current
  | some watch => current.accept rules watch

/-- The watch in force after some calls. -/
def Watch.afterAll (current : Watch) (rules : Rules) (calls : List Call) : Watch :=
  calls.foldl (fun watch call => watch.after rules call) current

/-- What a monitor answers that was started for the watch in force just now. -/
def freshAnswer (current : Watch) (rules : Rules) (call : Call) : Except WatchError Answer :=
  (Monitor.start current rules).map fun fresh => (fresh.step call).1

/-- **The answers of the reference**, which keeps the watch in force and nothing else. -/
def reference (current : Watch) (rules : Rules) : List Call → List (Except WatchError Answer)
  | [] => []
  | call :: calls =>
    freshAnswer current rules call :: reference (current.after rules call) rules calls

/-! ## 3. Starting and replacing -/

theorem start_of_plan_ok {w w' : Watch} {rules : Rules} {p : Plan}
    (h : w.plan rules = (.ok p, w')) : Monitor.start w rules = .ok ⟨rules, w', p⟩ := by
  rw [Monitor.start, h]

theorem start_of_plan_error {w : Watch} {rules : Rules} {e : WatchError}
    (h : (w.plan rules).1 = .error e) : Monitor.start w rules = .error e := by
  have h : w.plan rules = (.error e, (w.plan rules).2) := Prod.ext h rfl
  rw [Monitor.start, h]

/-- **The monitor holds the watch `current`**: it is under `rules`, `current` is its watch and
    passes its check unchanged, and its plan is the plan of `current`, with faithful memories. -/
structure Monitor.Holds (m : Monitor) (rules : Rules) (current : Watch) : Prop where
  rules_eq : m.rules = rules
  watch_eq : m.watch = current
  checked : current.check = (.ok (), current)
  planned : ∃ p, Plan.ofSearch current.search rules = .ok p ∧ p.Learned m.plan

section Holding

variable {m m' : Monitor} {rules : Rules} {current : Watch}

/-- A monitor that was started holds its watch, with the defaults filled in. -/
theorem holds_of_plan {w w' : Watch} {p : Plan} (h : w.plan rules = (.ok p, w')) :
    Monitor.Holds ⟨rules, w', p⟩ rules w' := by
  obtain ⟨hc, hp⟩ := Watch.plan_eq_ok_iff.mp h
  exact ⟨rfl, rfl, check_of_checked hc, p, hp, Plan.learned_self hp⟩

theorem holds_of_start {w : Watch} (h : Monitor.start w rules = .ok m) :
    m.Holds rules (w.plan rules).2 := by
  cases hp : w.plan rules with
  | mk result w' =>
    cases result with
    | ok p =>
      rw [start_of_plan_ok hp] at h
      cases h
      exact holds_of_plan hp
    | error e =>
      rw [start_of_plan_error (congrArg Prod.fst hp)] at h
      cases h

/-- The watch in force can always be started again. -/
theorem Monitor.Holds.exists_fresh (h : m.Holds rules current) :
    ∃ fresh, Monitor.start current rules = .ok fresh ∧ fresh.Holds rules current := by
  obtain ⟨p, hp, -⟩ := h.planned
  have hplan : current.plan rules = (.ok p, current) := Watch.plan_eq_ok_iff.mpr ⟨h.checked, hp⟩
  exact ⟨_, start_of_plan_ok hplan, holds_of_plan hplan⟩

theorem Monitor.Holds.replaced (h : m.Holds rules current) (w : Watch) :
    (m.replaced w).Holds rules (current.accept rules w) := by
  unfold Monitor.replaced Monitor.replace Watch.accept
  rw [h.rules_eq]
  cases hp : w.plan rules with
  | mk result w' =>
    cases result with
    | ok p =>
      rw [start_of_plan_ok hp]
      exact holds_of_plan hp
    | error e =>
      rw [start_of_plan_error (congrArg Prod.fst hp)]
      exact h

/-! ## 4. One call -/

/-- The monitor with what its plan compiled during a poll. -/
def Monitor.polled (m : Monitor) (fetch : PageFetch) : Monitor :=
  { m with plan := (m.plan.poll m.watch fetch).2 }

/-- A poll is a poll without a replacement and then the replacement. -/
theorem poll_snd (m : Monitor) (v : Visit) :
    (m.poll v).2 = match v.replacement with
      | none => m.polled v.fetch
      | some w => (m.polled v.fetch).replaced w := by
  obtain ⟨fetch, replacement⟩ := v
  cases replacement <;> rfl

theorem round_snd (m : Monitor) (v : Visit) (channels : List Channel) (timestamp : Nat) :
    (m.round v channels timestamp).2 = (m.poll v).2 := by
  unfold Monitor.round
  cases m.poll v with
  | mk result after =>
    dsimp only
    split <;> rfl

theorem Monitor.Holds.polled (h : m.Holds rules current) (fetch : PageFetch) :
    (m.polled fetch).Holds rules current := by
  obtain ⟨p, hp, hl⟩ := h.planned
  exact ⟨h.rules_eq, h.watch_eq, h.checked, p, hp,
    (hl.poll (Plan.learned_self hp) m.watch fetch).2⟩

theorem Monitor.Holds.poll (h : m.Holds rules current) (v : Visit) :
    (m.poll v).2.Holds rules (current.after rules (.poll v)) := by
  rw [poll_snd, Watch.after, Call.watch?]
  cases v.replacement with
  | none => exact h.polled v.fetch
  | some w => exact (h.polled v.fetch).replaced w

/-- **A call leaves the monitor with the watch in force.** -/
theorem step_holds (h : m.Holds rules current) (call : Call) :
    (m.step call).2.Holds rules (current.after rules call) := by
  cases call with
  | poll v => exact h.poll v
  | round v channels timestamp =>
    rw [Monitor.step, round_snd]
    exact h.poll v
  | replace w => exact h.replaced w

theorem replaceAnswer_eq (h : m.Holds rules current) (h' : m'.Holds rules current) :
    m.replaceAnswer = m'.replaceAnswer := by
  funext w
  rw [Monitor.replaceAnswer, Monitor.replaceAnswer, Monitor.replace, Monitor.replace, h.rules_eq,
    h'.rules_eq]

theorem poll_fst_eq (h : m.Holds rules current) (h' : m'.Holds rules current) (v : Visit) :
    (m.poll v).1 = (m'.poll v).1 := by
  obtain ⟨p, hp, hl⟩ := h.planned
  obtain ⟨p', hp', hl'⟩ := h'.planned
  -- Both plans are compared with the plan that is made from the watch just now.
  obtain rfl : p = p' := Except.ok.inj (hp.symm.trans hp')
  have hself := Plan.learned_self hp
  show (m.plan.poll m.watch v.fetch).1 = (m'.plan.poll m'.watch v.fetch).1
  rw [(hl.poll hself m.watch v.fetch).1, (hl'.poll hself m'.watch v.fetch).1, h.watch_eq,
    h'.watch_eq]

/-- **Monitors that hold the same watch answer alike**, whatever their plans remember. -/
theorem answer_eq (h : m.Holds rules current) (h' : m'.Holds rules current) (call : Call) :
    (m.step call).1 = (m'.step call).1 := by
  cases call with
  | poll v =>
    rw [Monitor.step, Monitor.step, poll_fst_eq h h', replaceAnswer_eq h h']
  | round v channels timestamp =>
    have hround : (m.round v channels timestamp).1 = (m'.round v channels timestamp).1 := by
      have hresult := poll_fst_eq h h' v
      have hwatch : m.watch = m'.watch := h.watch_eq.trans h'.watch_eq.symm
      unfold Monitor.round
      dsimp only
      rw [hresult, hwatch]
      split <;> rfl
    rw [Monitor.step, Monitor.step, hround, replaceAnswer_eq h h']
  | replace w => rw [Monitor.step, Monitor.step, replaceAnswer_eq h h']

theorem ok_answer_eq_freshAnswer (h : m.Holds rules current) (call : Call) :
    .ok (m.step call).1 = freshAnswer current rules call := by
  obtain ⟨fresh, hstart, hfresh⟩ := h.exists_fresh
  rw [freshAnswer, hstart, map_ok, answer_eq h hfresh call]

/-- A watch that is refused changes nothing, also in the middle of a poll. -/
theorem replaced_of_plan_error {w : Watch} {e : WatchError} (hm : m.rules = rules)
    (hw : (w.plan rules).1 = .error e) : m.replace w = .error e ∧ m.replaced w = m := by
  have hreplace : m.replace w = .error e := by
    rw [Monitor.replace, hm]
    exact start_of_plan_error hw
  exact ⟨hreplace, by rw [Monitor.replaced, hreplace]; rfl⟩

/-! ## 5. Runs -/

/-- **The invariant holds along every run**, and the answers are those of the reference. -/
theorem run_holds (h : m.Holds rules current) (calls : List Call) :
    (m.run calls).1.map .ok = reference current rules calls ∧
      (m.run calls).2.Holds rules (current.afterAll rules calls) := by
  induction calls generalizing m current with
  | nil => exact ⟨rfl, h⟩
  | cons call calls ih =>
    -- The induction is on the calls still to come, for every watch in force.
    obtain ⟨hanswers, hend⟩ := ih (step_holds h call)
    refine ⟨?_, hend⟩
    rw [reference, ← ok_answer_eq_freshAnswer h call, ← hanswers]
    rfl

end Holding

/-- **A monitor is the stateless reference.** Over every list of calls, the answers are those of
    monitors started just now for the watch in force. At the end, hence at every point of a run,
    the monitor has the watch in force, which passes its check unchanged, and a plan that is the
    plan of its search. A watch that cannot be made ready is refused with the error that says why
    and leaves the monitor exactly as it was; given during a poll or a round, it leaves their
    result and the monitor as they are without it. -/
theorem run_eq_reference {w : Watch} {rules : Rules} {m₀ : Monitor}
    (h : Monitor.start w rules = .ok m₀) (calls : List Call) :
    (m₀.run calls).1.map .ok = reference (w.plan rules).2 rules calls ∧
      ∃ m current, m = (m₀.run calls).2 ∧ current = (w.plan rules).2.afterAll rules calls ∧
        m.rules = rules ∧ m.watch = current ∧ current.check = (.ok (), current) ∧
        (∃ p, Plan.ofSearch current.search rules = .ok p ∧ m.plan.same p = true) ∧
        (∀ call, .ok (m.step call).1 = freshAnswer current rules call) ∧
        ∀ w' e, (w'.plan rules).1 = .error e →
          m.step (.replace w') = (.replaced (.error e), m) ∧
          (∀ fetch, m.poll ⟨fetch, some w'⟩ = m.poll ⟨fetch, none⟩) ∧
          ∀ fetch channels timestamp, m.round ⟨fetch, some w'⟩ channels timestamp =
            m.round ⟨fetch, none⟩ channels timestamp := by
  obtain ⟨hanswers, hend⟩ := run_holds (holds_of_start h) calls
  obtain ⟨p, hp, hl⟩ := hend.planned
  refine ⟨hanswers, _, _, rfl, rfl, hend.rules_eq, hend.watch_eq, hend.checked, ⟨p, hp, hl.same⟩,
    ok_answer_eq_freshAnswer hend, fun w' e hw => ?_⟩
  obtain ⟨hreplace, hsame⟩ := replaced_of_plan_error hend.rules_eq hw
  have hpoll : ∀ fetch, (m₀.run calls).2.poll ⟨fetch, some w'⟩ =
      (m₀.run calls).2.poll ⟨fetch, none⟩ := by
    intro fetch
    refine Prod.ext rfl ?_
    rw [poll_snd, poll_snd]
    exact (replaced_of_plan_error (hend.polled fetch).rules_eq hw).2
  refine ⟨?_, hpoll, fun fetch channels timestamp => ?_⟩
  · rw [Monitor.step, hsame, Monitor.replaceAnswer, hreplace, map_error]
  · rw [Monitor.round, Monitor.round, hpoll]

end Engine

theorem run_eq_reference_regex :
    ∃ m₀, Monitor.start ⟨"u", ⟨.regex, "a+", "", .found⟩, ⟨none, some ⟨"d"⟩, none⟩, 0, .http⟩
        ⟨32, false⟩ = .ok m₀ ∧
      (m₀.run [.poll ⟨fun _ => .ok "caab", none⟩, .replace {}]).2.watch.url = "u" := by
  obtain ⟨m₀, h⟩ : ∃ m₀, Monitor.start
      ⟨"u", ⟨.regex, "a+", "", .found⟩, ⟨none, some ⟨"d"⟩, none⟩, 0, .http⟩ ⟨32, false⟩ = .ok m₀ :=
    ⟨_, rfl⟩
  obtain ⟨-, m, current, hm, hcurrent, -, hwatch, -⟩ :=
    run_eq_reference h [.poll ⟨fun _ => .ok "caab", none⟩, .replace {}]
  refine ⟨m₀, h, ?_⟩
  rw [← hm, hwatch, hcurrent]
  rfl

end PageWatch
