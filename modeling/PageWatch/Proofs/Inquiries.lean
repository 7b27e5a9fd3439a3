import Mathlib.Data.List.Basic
import PageWatch.Proofs.Complete
import PageWatch.Regex.Basic
import PageWatch.Watch.Plan

/-!
# Asking a watch again

A watch can be checked, and it can be made ready under any rules; both fill in the defaults for
mail. These are the inquiries of this module, and they may follow each other in any order.

* `plan_eq`: making ready is checking, and then making the search ready; it leaves of the watch
  what checking leaves;
* `asked_eq` is the step: whatever is asked first, the watch becomes the checked one;
* `askedAll_check` is the run: **nothing that is asked afterwards changes it again**.

Main statement: `check_settles`, with what passes and what is filled in.
-/

namespace PageWatch

open PageWatch.Pattern PageWatch.Text

/-! ## 1. Making ready -/

/-- A check does not touch the search. -/
theorem check_search (w : Watch) : w.check.2.search = w.search := by
  by_cases h : w.CompleteToMail
  · rw [Watch.check_of_completeToMail h]
    rfl
  · obtain ⟨e, he⟩ := Watch.check_of_not_completeToMail h
    rw [he]

section Engine

variable [Regex.Engine]

/-- **Making a watch ready** is checking it and then making its search ready. -/
theorem plan_eq (w : Watch) (rules : Rules) :
    w.plan rules = (w.check.1.bind fun () => Plan.ofSearch w.search rules, w.check.2) := by
  have hsearch := check_search w
  unfold Watch.plan
  cases hcheck : w.check with
  | mk result w' =>
    rw [hcheck] at hsearch
    cases result with
    | error e => rfl
    | ok u =>
      have hsearch : w'.search = w.search := hsearch
      dsimp only
      rw [hsearch]
      rfl

/-! ## 2. One inquiry after the other -/

/-- What may be asked about a watch: whether it is complete, or for its plan under some rules. -/
inductive Inquiry where
  | check
  | plan (rules : Rules)

/-- The watch after an inquiry. -/
def Watch.asked (w : Watch) : Inquiry → Watch
  | .check => w.check.2
  | .plan rules => (w.plan rules).2

/-- The watch after some inquiries. -/
def Watch.askedAll (w : Watch) (inquiries : List Inquiry) : Watch :=
  inquiries.foldl Watch.asked w

/-- **Every inquiry leaves the checked watch.** -/
theorem asked_eq (w : Watch) (inquiry : Inquiry) : w.asked inquiry = w.check.2 := by
  cases inquiry with
  | check => rfl
  | plan rules =>
    rw [Watch.asked, plan_eq]

/-- **A watch that was checked stays as it is**, whatever is asked afterwards. -/
theorem askedAll_check (w : Watch) (inquiries : List Inquiry) :
    w.check.2.askedAll inquiries = w.check.2 := by
  have hfixed : ∀ inquiry, w.check.2.asked inquiry = w.check.2 := by
    intro inquiry
    rw [asked_eq, check_check]
  exact List.foldl_fixed' hfixed inquiries

end Engine

/-! ## 3. What is filled in -/

/-- An account with its defaults: port 0 is 587, and an empty subject is the default one. -/
theorem withDefaults_eq (a : MailAccount) :
    a.withDefaults = { a with
      port := if a.port = 0 then 587 else a.port
      subject := if a.subject = "" then "UpToDate Alert!" else a.subject } := by
  have hsubject : (a.subject.isEmpty = true) = (a.subject = "") := by simp
  unfold MailAccount.withDefaults
  simp only [hsubject]
  rfl

/-- **A check accepts what is complete, and settles a watch.** (1) A watch passes if and only if it
    is complete. (2) If it is complete as far as mail, port 0 becomes 587 and an empty subject
    becomes the default one, and nothing else changes; if it is not, nothing changes at all.
    (3) Whatever was asked since, another check gives the same answer and the same watch, and
    making ready gives the same refusal, or what the search of the watch gives, and the same watch.
    (4) So a watch that was made ready is made ready again under the same rules, with an equal
    plan. -/
theorem check_settles [Regex.Engine] (w : Watch) :
    (w.check.1 = .ok () ↔ w.Complete) ∧
    ((w.CompleteToMail →
        w.check.2 = { w with channels := { w.channels with
          email := w.channels.email.map fun a => { a with
            port := if a.port = 0 then 587 else a.port
            subject := if a.subject = "" then "UpToDate Alert!" else a.subject } } }) ∧
      (¬ w.CompleteToMail → w.check.2 = w)) ∧
    (∀ inquiries, (w.check.2.askedAll inquiries).check = w.check ∧
      ∀ rules, (w.check.2.askedAll inquiries).plan rules =
        (w.check.1.bind fun () => Plan.ofSearch w.search rules, w.check.2)) ∧
    ∀ rules p, (w.plan rules).1 = .ok p →
      ∀ inquiries, ((w.plan rules).2.askedAll inquiries).plan rules = (.ok p, (w.plan rules).2) := by
  have hplan : ∀ rules, w.check.2.plan rules =
      (w.check.1.bind fun () => Plan.ofSearch w.search rules, w.check.2) := by
    intro rules
    rw [plan_eq, check_check, check_search]
  refine ⟨check_eq_ok_iff, ⟨?_, ?_⟩, ?_, ?_⟩
  · intro h
    rw [Watch.check_of_completeToMail h]
    simp only [Watch.filled, Channels.filled, ← withDefaults_eq]
  · intro h
    obtain ⟨e, he⟩ := Watch.check_of_not_completeToMail h
    rw [he]
  · intro inquiries
    rw [askedAll_check]
    exact ⟨check_check w, hplan⟩
  · intro rules p hp inquiries
    have hleft : (w.plan rules).2 = w.check.2 := by rw [plan_eq]
    rw [hleft, askedAll_check, hplan, ← plan_eq]
    exact Prod.ext hp hleft

/-- Three watches: one that is refused for its webhook behind a complete account, one that is
    refused for its account, and one that is made ready, between other inquiries. -/
theorem check_settles_partly :
    (∃ w : Watch, w.CompleteToMail ∧ w.check.1 = .error (.webhookLacksUrl "discord") ∧
      w.check.2.channels.email = some ⟨"h", 587, "n", "p", "f", "t", "UpToDate Alert!"⟩) ∧
    (∃ w : Watch, ¬ w.CompleteToMail ∧ w.check.1 = .error (.mailLacks "password") ∧
      w.check.2 = w) ∧
    ∃ (w : Watch) (p : Plan), (w.plan {}).1 = .ok p ∧
      ((w.plan {}).2.askedAll [.plan { maxNesting := 0 }, .check]).plan {} =
        (.ok p, (w.plan {}).2) := by
  refine ⟨?_, ?_, ?_⟩
  · have hmail : Watch.CompleteToMail ⟨"u", ⟨.string, "x", "", .found⟩,
        ⟨some ⟨"h", 0, "n", "p", "f", "t", ""⟩, some ⟨" "⟩, none⟩, 0, .http⟩ :=
      { page := isAllBlank_eq_false_iff.mp rfl
        pattern := by decide
        channel := .inl nofun
        mail := by
          rintro a ⟨⟩
          exact lacks?_eq_none_iff.mp rfl }
    refine ⟨_, hmail, rfl, ?_⟩
    rw [(check_settles _).2.1.1 hmail]
    rfl
  · have hlacks : ¬ MailAccount.Complete ⟨"h", 0, "n", "", "f", "t", ""⟩ :=
      fun h => h.password rfl
    have hmail : ¬ Watch.CompleteToMail ⟨"u", ⟨.string, "x", "", .found⟩,
        ⟨some ⟨"h", 0, "n", "", "f", "t", ""⟩, none, none⟩, 0, .http⟩ :=
      fun h => hlacks (h.mail _ rfl)
    exact ⟨_, hmail, rfl, (check_settles _).2.1.2 hmail⟩
  · have hplan : (Watch.plan ⟨"u", ⟨.string, "x", "", .found⟩, ⟨none, none, some ⟨"s"⟩⟩, 0, .http⟩
        {}).1 = .ok ⟨.string, "x", .leaf (.fresh .string "x")⟩ := rfl
    exact ⟨_, _, hplan, (check_settles _).2.2.2 {} _ hplan _⟩

end PageWatch
