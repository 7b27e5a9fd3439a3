import PageWatch.Proofs.Acceptance

/-!
# Who is told what

A round polls and then tells all channels or none of them. What it does is said here without
looking at how the channels are gone through:

* `alerts_iff` and `reason_of_alerts`: **the two tables of the policy agree**. A round tells
  somebody if its poll failed or its verdict is the one that is waited for, and then there is a
  reason;
* `sent_sendToAll`, `taken_sendToAll`, `failures_sendToAll`: a message is handed to every channel
  once and in order, and each answer goes to one of two lists. What one channel answers changes
  nothing for the others;
* `round_cases`: a round is one of the two, for every monitor.

Main statement: **in every state of a run a round tells every channel once, or nobody**
(`round_tells_once`).
-/

namespace PageWatch

open PageWatch.Pattern

/-! ## 1. The policy -/

/-- The verdict that is worth an alert. -/
def AlertWhen.verdict : AlertWhen → Bool
  | .found => true
  | .notFound => false

section Policy

variable {wanted : AlertWhen} {result : PollResult}

/-- **When to alert**: the poll failed, or its verdict is the one that is waited for. -/
theorem alerts_iff :
    wanted.alerts result = true ↔ result.isFailed = true ∨ result.found = wanted.verdict := by
  cases result with
  | failed e => simp [AlertWhen.alerts, PollResult.isFailed]
  | verdict o => cases wanted <;> simp [AlertWhen.alerts, PollResult.isFailed, AlertWhen.verdict]

/-- **An alert has a reason**: the failure, or else the verdict. -/
theorem reason_of_alerts (h : wanted.alerts result = true) :
    wanted.reason result =
      if result.isFailed then .failure else if result.found then .found else .notFound := by
  cases result with
  | failed e => rfl
  | verdict o =>
    rcases alerts_iff.mp h with hfailed | hfound
    · cases hfailed
    · unfold AlertWhen.reason
      rw [hfound]
      cases wanted <;> rfl

/-- The reason of an alert is a known one, and so is its text. -/
theorem reason_ne_unknown (h : wanted.alerts result = true) :
    wanted.reason result ≠ .unknown ∧ (wanted.reason result).text ≠ Reason.unknown.text := by
  rw [reason_of_alerts h]
  cases result.isFailed <;> cases result.found <;> decide

end Policy

/-! ## 2. One message for all channels -/

/-- The channel takes the message. -/
def Channel.takes (c : Channel) (message : String) : Bool := (c.send message).isOk

/-- The error that a channel answers a message with. -/
def Channel.refusal? (c : Channel) (message : String) : Option ChannelError :=
  match c.send message with
  | .ok () => none
  | .error e => some e

section Sending

variable {message : String} {c : Channel} {rest : List Channel}

theorem sendToAll_cons_of_ok (h : c.send message = .ok ()) :
    sendToAll message (c :: rest) =
      (⟨c.name :: (sendToAll message rest).1.taken, (sendToAll message rest).1.failures⟩,
        ⟨c.name, message⟩ :: (sendToAll message rest).2) := by
  rw [sendToAll, h]
  rfl

theorem sendToAll_cons_of_error {e : ChannelError} (h : c.send message = .error e) :
    sendToAll message (c :: rest) =
      (⟨(sendToAll message rest).1.taken, e :: (sendToAll message rest).1.failures⟩,
        ⟨c.name, message⟩ :: (sendToAll message rest).2) := by
  rw [sendToAll, h]
  rfl

variable (message) (channels : List Channel)

/-- **Every channel is handed the message once, in order**, whatever the others answer. -/
theorem sent_sendToAll :
    (sendToAll message channels).2 = channels.map fun c => ⟨c.name, message⟩ := by
  induction channels with
  | nil => rfl
  | cons c rest ih => rw [sendToAll, List.map_cons, ← ih]

/-- The channels that took the message, in order. -/
theorem taken_sendToAll :
    (sendToAll message channels).1.taken =
      (channels.filter fun c => c.takes message).map Channel.name := by
  induction channels with
  | nil => rfl
  | cons c rest ih =>
    cases hanswer : c.send message with
    | ok u =>
      have htakes : c.takes message = true := by rw [Channel.takes, hanswer]; rfl
      simp [sendToAll_cons_of_ok hanswer, htakes, ih]
    | error e =>
      have htakes : c.takes message = false := by rw [Channel.takes, hanswer]; rfl
      simp [sendToAll_cons_of_error hanswer, htakes, ih]

/-- The errors of the other channels, in order. -/
theorem failures_sendToAll :
    (sendToAll message channels).1.failures = channels.filterMap fun c => c.refusal? message := by
  induction channels with
  | nil => rfl
  | cons c rest ih =>
    cases hanswer : c.send message with
    | ok u =>
      have hnone : c.refusal? message = none := by rw [Channel.refusal?, hanswer]
      simp [sendToAll_cons_of_ok hanswer, hnone, ih]
    | error e =>
      have hsome : c.refusal? message = some e := by rw [Channel.refusal?, hanswer]
      simp [sendToAll_cons_of_error hanswer, hsome, ih]

/-- No channel is lost and none is counted twice. -/
theorem length_sendToAll :
    (sendToAll message channels).1.taken.length +
      (sendToAll message channels).1.failures.length = channels.length := by
  induction channels with
  | nil => rfl
  | cons c rest ih =>
    cases hanswer : c.send message with
    | ok u =>
      rw [sendToAll_cons_of_ok hanswer]
      simp only [List.length_cons]
      omega
    | error e =>
      rw [sendToAll_cons_of_error hanswer]
      simp only [List.length_cons]
      omega

end Sending

section Engine

variable [Regex.Engine]

/-! ## 3. Rounds -/

/-- **What a round is**: an alert to all channels, or nothing beyond its poll. -/
theorem round_cases (m : Monitor) (v : Visit) (channels : List Channel) (timestamp : Nat) :
    (m.watch.search.alertWhen.alerts (m.poll v).1 = true ∧
      ∃ message, message = m.watch.alertText (m.poll v).1 timestamp ∧
        (m.round v channels timestamp).1 =
          ⟨(m.poll v).1,
            some ⟨m.watch.search.alertWhen.reason (m.poll v).1, message,
              (sendToAll message channels).1⟩,
            (sendToAll message channels).2⟩) ∨
      (m.watch.search.alertWhen.alerts (m.poll v).1 = false ∧
        (m.round v channels timestamp).1 = ⟨(m.poll v).1, none, []⟩) := by
  unfold Monitor.round
  cases halerts : m.watch.search.alertWhen.alerts (m.poll v).1 with
  | true => exact .inl ⟨rfl, _, rfl, by simp [halerts]⟩
  | false => exact .inr ⟨rfl, by simp [halerts]⟩

/-- **Every channel is told once, or nobody is.** In every state of a run the monitor has the watch
    in force, and for every page, all channels and whatever they answer: a round has the result that
    a poll of the same page has. There is a notice if the poll failed or its verdict is the one that
    the watch waits for, and without one nothing is sent. Otherwise every channel is handed one
    message, in order, which is the text of the alert; the delivery lists the channels that took it
    and the errors of the others, in order and together as many as there are channels; and the
    reason is a known one. -/
theorem round_tells_once {w : Watch} {rules : Rules} {m₀ : Monitor}
    (h : Monitor.start w rules = .ok m₀) (calls : List Call) (v : Visit) (channels : List Channel)
    (timestamp : Nat) :
    ∃ m current round, m = (m₀.run calls).2 ∧
      current = (w.plan rules).2.afterAll rules calls ∧ m.watch = current ∧
      round = (m.round v channels timestamp).1 ∧
      round.result = (m.poll v).1 ∧
      (round.notice.isSome = true ↔
        round.result.isFailed = true ∨ round.result.found = current.search.alertWhen.verdict) ∧
      (round.notice = none → round.sent = []) ∧
      ∀ notice, round.notice = some notice →
        notice.message = current.alertText round.result timestamp ∧
        round.sent = channels.map (fun c => ⟨c.name, notice.message⟩) ∧
        notice.delivery.taken =
          (channels.filter fun c => c.takes notice.message).map Channel.name ∧
        notice.delivery.failures = channels.filterMap (fun c => c.refusal? notice.message) ∧
        notice.delivery.taken.length + notice.delivery.failures.length = channels.length ∧
        notice.reason ≠ .unknown ∧ notice.reason.text ≠ "unknown reason" := by
  have hwatch := (run_holds (holds_of_start h) calls).2.watch_eq
  refine ⟨_, _, _, rfl, rfl, hwatch, rfl, round_result .., ?_⟩
  rw [← hwatch]
  rcases round_cases (m₀.run calls).2 v channels timestamp with
    ⟨halerts, message, hmessage, hround⟩ | ⟨halerts, hround⟩
  · rw [hround]
    refine ⟨⟨fun _ => alerts_iff.mp halerts, fun _ => rfl⟩, nofun, fun notice hnotice => ?_⟩
    obtain rfl := Option.some.inj hnotice
    exact ⟨hmessage, sent_sendToAll .., taken_sendToAll .., failures_sendToAll ..,
      length_sendToAll .., reason_ne_unknown halerts⟩
  · rw [hround]
    refine ⟨⟨nofun, fun hwanted => ?_⟩, fun _ => rfl, nofun⟩
    rw [alerts_iff.mpr hwanted] at halerts
    cases halerts

end Engine

theorem round_tells_once_partly :
    ∃ m₀, Monitor.start ⟨"u", ⟨.string, "a", "", .notFound⟩, ⟨none, some ⟨"d"⟩, none⟩, 0, .http⟩
        {} = .ok m₀ ∧
      ∃ notice, ((m₀.run [.replace {}]).2.round ⟨fun _ => .ok "b", none⟩
          [⟨"mail", fun _ => .error (.rejected "mail" 500)⟩, ⟨"chat", fun _ => .ok ()⟩]
          7).1.notice = some notice ∧
        notice.delivery.taken = ["chat"] ∧ notice.reason ≠ .unknown := by
  obtain ⟨m₀, h, hpoll⟩ : ∃ m₀, Monitor.start
      ⟨"u", ⟨.string, "a", "", .notFound⟩, ⟨none, some ⟨"d"⟩, none⟩, 0, .http⟩ {} = .ok m₀ ∧
      ((m₀.run [.replace {}]).2.poll ⟨fun _ => .ok "b", none⟩).1.found = false := ⟨_, rfl, rfl⟩
  obtain ⟨m, current, round, hm, hcurrent, -, hround, hresult, hnotice, -, htold⟩ :=
    round_tells_once h [.replace {}] ⟨fun _ => .ok "b", none⟩
      [⟨"mail", fun _ => .error (.rejected "mail" 500)⟩, ⟨"chat", fun _ => .ok ()⟩] 7
  have hfound : round.result.found = current.search.alertWhen.verdict := by
    rw [hresult, hm, hpoll, hcurrent]
    rfl
  obtain ⟨notice, hsome⟩ := Option.isSome_iff_exists.mp (hnotice.mpr (.inr hfound))
  obtain ⟨-, -, htaken, -, -, hreason, -⟩ := htold notice hsome
  rw [hround, hm] at hsome
  exact ⟨m₀, h, notice, hsome, htaken, hreason⟩

end PageWatch
