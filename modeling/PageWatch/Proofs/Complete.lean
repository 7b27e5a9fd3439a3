import PageWatch.Watch.Complete

/-!
# Checking a watch

What passes `Watch.check`, and what it leaves of a watch. `Watch.Complete` says what a complete
watch is without the order of the checks; `Watch.CompleteToMail` is the part of it that is looked
at before the webhooks are.

* `Watch.check_of_completeToMail` and `Watch.check_of_not_completeToMail` are **all that a check can
  come to**: the defaults for mail are filled in and the webhooks decide, or the watch is refused
  and left alone;
* `check_eq_ok_iff`: a watch passes if and only if it is complete;
* `check_check`: checking again gives the same answer and changes nothing.
-/

namespace PageWatch.Text

/-- The text has a character that is not blank. -/
def SaysSomething (s : String) : Prop := ∃ c ∈ s.toList, isBlank c = false

theorem isAllBlank_eq_false_iff {s : String} : isAllBlank s = false ↔ SaysSomething s :=
  List.all_eq_false.trans <| by simp [SaysSomething]

end PageWatch.Text

namespace PageWatch

open PageWatch.Text

/-! ## 1. Mail -/

/-- The account has all fields that mail cannot do without. -/
structure MailAccount.Complete (a : MailAccount) : Prop where
  host : a.host ≠ ""
  username : a.username ≠ ""
  password : a.password ≠ ""
  sender : a.sender ≠ ""
  recipient : a.recipient ≠ ""

theorem lacks?_eq_none_iff {a : MailAccount} : a.lacks? = none ↔ a.Complete := by
  have hfields : a.lacks? = none ↔
      a.host ≠ "" ∧ a.username ≠ "" ∧ a.password ≠ "" ∧ a.sender ≠ "" ∧ a.recipient ≠ "" := by
    simp [MailAccount.lacks?, MailAccount.required]
  rw [hfields]
  constructor
  · rintro ⟨host, username, password, sender, recipient⟩
    exact ⟨host, username, password, sender, recipient⟩
  · rintro ⟨host, username, password, sender, recipient⟩
    exact ⟨host, username, password, sender, recipient⟩

/-- A default is filled in once, whatever it is filled in for. -/
theorem fill_fill {α : Type} (p : α → Prop) [DecidablePred p] (d x : α) :
    (if p (if p x then d else x) then d else if p x then d else x) = if p x then d else x := by
  by_cases h : p x
  · rw [if_pos h, ite_self]
  · rw [if_neg h, if_neg h]

theorem withDefaults_withDefaults (a : MailAccount) :
    a.withDefaults.withDefaults = a.withDefaults := by
  have hport := fill_fill (· = 0) defaultMailPort a.port
  have hsubject := fill_fill (fun s : String => s.isEmpty = true) defaultMailSubject a.subject
  unfold MailAccount.withDefaults
  dsimp only at hport hsubject ⊢
  rw [hport, hsubject]

/-- No field that mail needs is filled in. -/
theorem MailAccount.Complete.withDefaults {a : MailAccount} (h : a.Complete) :
    a.withDefaults.Complete :=
  ⟨h.host, h.username, h.password, h.sender, h.recipient⟩

/-! ## 2. Channels -/

/-- The channels with the defaults for mail filled in. -/
def Channels.filled (c : Channels) : Channels :=
  { c with email := c.email.map MailAccount.withDefaults }

section Channels

variable {c : Channels}

theorem isEmpty_eq_false_iff :
    c.isEmpty = false ↔ c.email ≠ none ∨ c.discord ≠ none ∨ c.slack ≠ none := by
  obtain ⟨email, discord, slack⟩ := c
  cases email <;> cases discord <;> cases slack <;> simp [Channels.isEmpty]

theorem filled_filled : c.filled.filled = c.filled := by
  obtain ⟨email, discord, slack⟩ := c
  cases email with
  | none => rfl
  | some a => simp [Channels.filled, withDefaults_withDefaults]

theorem checkWebhook_eq_ok_iff (channel : String) {hook? : Option Webhook} :
    checkWebhook channel hook? = .ok () ↔ ∀ hook, hook? = some hook → SaysSomething hook.url := by
  cases hook? with
  | none => simp [checkWebhook]
  | some hook =>
    cases h : isAllBlank hook.url with
    | true =>
      have hsays : ¬ SaysSomething hook.url := by
        rw [← isAllBlank_eq_false_iff, h]
        decide
      simp [checkWebhook, h, hsays]
    | false => simp [checkWebhook, h, isAllBlank_eq_false_iff.mp h]

theorem checkWebhooks_eq_ok_iff :
    c.checkWebhooks = .ok () ↔
      (∀ hook, c.discord = some hook → SaysSomething hook.url) ∧
        ∀ hook, c.slack = some hook → SaysSomething hook.url := by
  rw [← checkWebhook_eq_ok_iff "discord", ← checkWebhook_eq_ok_iff "slack",
    Channels.checkWebhooks]
  cases checkWebhook "discord" c.discord with
  | error e => simp
  | ok u => simp

/-- Mail that lacks nothing is filled in, and the webhooks decide. -/
theorem Channels.check_of_complete (h : ∀ a, c.email = some a → a.Complete) :
    c.check = (c.checkWebhooks, c.filled) := by
  obtain ⟨email, discord, slack⟩ := c
  cases email with
  | none => rfl
  | some a =>
    have hlacks : a.lacks? = none := lacks?_eq_none_iff.mpr (h a rfl)
    simp [Channels.check, Channels.filled, hlacks]

theorem Channels.check_of_lacking {a : MailAccount} (ha : c.email = some a) (h : ¬ a.Complete) :
    ∃ e, c.check = (.error e, c) := by
  cases hlacks : a.lacks? with
  | none => exact absurd (lacks?_eq_none_iff.mp hlacks) h
  | some field =>
    refine ⟨.mailLacks field, ?_⟩
    simp [Channels.check, ha, hlacks]

end Channels

/-! ## 3. Watches -/

/-- The watch is complete as far as it is looked at before the webhooks are. -/
structure Watch.CompleteToMail (w : Watch) : Prop where
  page : SaysSomething w.url
  pattern : w.search.pattern ≠ ""
  channel : w.channels.email ≠ none ∨ w.channels.discord ≠ none ∨ w.channels.slack ≠ none
  mail : ∀ a, w.channels.email = some a → a.Complete

/-- **The watch is complete**: it names a page, a pattern and a channel, and every channel has what
    it needs. -/
structure Watch.Complete (w : Watch) : Prop extends Watch.CompleteToMail w where
  discord : ∀ hook, w.channels.discord = some hook → SaysSomething hook.url
  slack : ∀ hook, w.channels.slack = some hook → SaysSomething hook.url

/-- The watch with the defaults for mail filled in. -/
def Watch.filled (w : Watch) : Watch := { w with channels := w.channels.filled }

section Watches

variable {w w' : Watch}

/-- **Defaults are filled in as soon as mail has passed**, whatever the webhooks are. -/
theorem Watch.check_of_completeToMail (h : w.CompleteToMail) :
    w.check = (w.channels.checkWebhooks, w.filled) := by
  have hpage : ¬ isAllBlank w.url = true :=
    Bool.eq_false_iff.mp (isAllBlank_eq_false_iff.mpr h.page)
  have hpattern : ¬ w.search.pattern.isEmpty = true := by simpa using h.pattern
  have hchannel : ¬ w.channels.isEmpty = true :=
    Bool.eq_false_iff.mp (isEmpty_eq_false_iff.mpr h.channel)
  rw [Watch.check, if_neg hpage, if_neg hpattern, if_neg hchannel,
    Channels.check_of_complete h.mail]
  rfl

/-- **A watch that is refused before that is left alone.** -/
theorem Watch.check_of_not_completeToMail (h : ¬ w.CompleteToMail) :
    ∃ e, w.check = (.error e, w) := by
  unfold Watch.check
  split
  · exact ⟨_, rfl⟩
  · next hpage =>
    split
    · exact ⟨_, rfl⟩
    · next hpattern =>
      split
      · exact ⟨_, rfl⟩
      · next hchannel =>
        have hpage := isAllBlank_eq_false_iff.mp (Bool.eq_false_iff.mpr hpage)
        have hpattern : w.search.pattern ≠ "" := by simpa using hpattern
        have hchannel := isEmpty_eq_false_iff.mp (Bool.eq_false_iff.mpr hchannel)
        have hmail : ¬ ∀ a, w.channels.email = some a → a.Complete :=
          fun hmail => h ⟨hpage, hpattern, hchannel, hmail⟩
        obtain ⟨a, ha, hlacking⟩ : ∃ a, w.channels.email = some a ∧ ¬ a.Complete := by
          simpa using hmail
        obtain ⟨e, he⟩ := Channels.check_of_lacking ha hlacking
        exact ⟨e, by rw [he]⟩

theorem Watch.CompleteToMail.filled (h : w.CompleteToMail) : w.filled.CompleteToMail := by
  refine ⟨h.page, h.pattern, ?_, ?_⟩
  · simpa [Watch.filled, Channels.filled] using h.channel
  · intro a ha
    obtain ⟨b, hb, rfl⟩ := Option.map_eq_some_iff.mp ha
    exact (h.mail b hb).withDefaults

/-- **A watch passes if and only if it is complete.** -/
theorem check_eq_ok_iff : w.check.1 = .ok () ↔ w.Complete := by
  by_cases h : w.CompleteToMail
  · rw [Watch.check_of_completeToMail h, checkWebhooks_eq_ok_iff]
    constructor
    · rintro ⟨hdiscord, hslack⟩
      exact ⟨h, hdiscord, hslack⟩
    · intro hw
      exact ⟨hw.discord, hw.slack⟩
  · obtain ⟨e, he⟩ := Watch.check_of_not_completeToMail h
    rw [he]
    constructor
    · intro hok
      cases hok
    · intro hw
      exact absurd hw.toCompleteToMail h

/-- **Checking again gives the same answer and changes nothing**, also if the answer is a
    refusal. -/
theorem check_check (w : Watch) : w.check.2.check = w.check := by
  by_cases h : w.CompleteToMail
  · have hfilled : w.filled.filled = w.filled := by
      rw [Watch.filled, Watch.filled, filled_filled]
    rw [Watch.check_of_completeToMail h, Watch.check_of_completeToMail h.filled, hfilled]
    rfl
  · obtain ⟨e, he⟩ := Watch.check_of_not_completeToMail h
    rw [he, he]

/-- A watch that has passed passes again, and is left as it is. -/
theorem check_of_checked (h : w.check = (.ok (), w')) : w'.check = (.ok (), w') := by
  have hagain := check_check w
  rw [h] at hagain
  exact hagain

end Watches

end PageWatch
