import PageWatch.Proofs.Acceptance
import PageWatch.Proofs.ByteSearch

/-!
# Evidence for a verdict

A search that was found can say what it found. **Matches are cut out of the text that was
searched**, those of a regular expression by whatever engine compiled it (`Regex.findAll_infix`),
and an expression that is found has at least one, whatever its operators are.

* `Outcome.Evidenced`: every match is a piece of the text, and there is one if the expression is
  found. `leafEvaluate_evidenced` and `evaluateAll_evidenced` are the cases of a leaf and of
  operands, `evaluate_evidenced` is the induction over trees;
* `exists_page_of_found`: the same of a poll, about the page that it searched;
* `matchLines_eq_join` and `alertText_of_found`: the text of an alert lists all matches, each with
  its number.

Main statement: `found_has_evidence`.
-/

namespace PageWatch

open PageWatch.Pattern PageWatch.Text

namespace Pattern

/-! ## 1. Outcomes -/

/-- **The outcome comes with evidence**: its matches are pieces of the text, and there is one if the
    expression is found. -/
structure Outcome.Evidenced (content : String) (o : Outcome) : Prop where
  pieces : ∀ m ∈ o.matched, m.toList <:+: content.toList
  nonempty : o.found = true → o.matched ≠ []

/-- An operator is found only if one of its operands is, as long as it has operands at all. -/
theorem true_mem_of_verdict {op : Operator} {vs : List Bool} (hvs : vs ≠ [])
    (h : op.verdict vs = true) : true ∈ vs := by
  cases op with
  | and =>
    obtain ⟨v, rest, hcons⟩ := List.exists_cons_of_ne_nil hvs
    have hall : ∀ v ∈ vs, v = true := List.all_eq_true.mp h
    have hv : v ∈ vs := by
      rw [hcons]
      exact List.mem_cons_self
    rw [← hall v hv]
    exact hv
  | or =>
    have hany : ∃ v ∈ vs, v = true := List.any_eq_true.mp h
    obtain ⟨v, hv, htrue⟩ := hany
    rw [← htrue]
    exact hv

section Outcomes

variable [Regex.Engine] {content : String} {o : Outcome}

theorem matched_infix {l : Leaf} {ms : List String} (h : l.matched content = .ok ms) :
    ∀ m ∈ ms, m.toList <:+: content.toList := by
  unfold Leaf.matched at h
  split at h
  · have hms : (if occursIn l.pattern content then [l.pattern] else []) = ms := Except.ok.inj h
    rw [← hms]
    by_cases hoccurs : occursIn l.pattern content = true
    · rw [if_pos hoccurs, List.forall_mem_singleton]
      exact occursIn_iff.mp hoccurs
    · rw [if_neg hoccurs]
      exact List.forall_mem_nil _
  · split at h
    · next r hr =>
      have hms : r.findAll content = ms := Except.ok.inj h
      rw [← hms]
      exact r.findAll_infix content
    · cases h

/-- A leaf is found by what it adds to the matches. -/
theorem leafEvaluate_evidenced {l : Leaf} (h : (l.evaluate content).1 = .ok o) :
    o.Evidenced content := by
  obtain ⟨ms, hms, hout⟩ := map_eq_ok_iff.mp h
  have hpieces := matched_infix hms
  rw [← hout]
  refine ⟨hpieces, ?_⟩
  intro hfound
  have hsome : ms.isEmpty = false := by simpa using hfound
  exact List.isEmpty_eq_false_iff.mp hsome

/-- **Over operands**: all matches are pieces of the text, and there is one if some operand is
    found. -/
theorem evaluateAll_evidenced {es : List Expression}
    (h : ∀ e ∈ es, ∀ o, (e.evaluate content).1 = .ok o → o.Evidenced content) {index : Nat}
    {vs : List Bool} {ms : List String}
    (hvs : (Expression.evaluateAll content index es).1 = .ok (vs, ms)) :
    vs.length = es.length ∧ (∀ m ∈ ms, m.toList <:+: content.toList) ∧
      (true ∈ vs → ms ≠ []) := by
  induction es generalizing index vs ms with
  | nil =>
    rw [Expression.evaluateAll] at hvs
    cases hvs
    exact ⟨rfl, List.forall_mem_nil _, fun htrue => absurd htrue List.not_mem_nil⟩
  | cons e es ih =>
    obtain ⟨he, hes⟩ := List.forall_mem_cons.mp h
    cases hc : e.evaluate content with
    | mk result e' =>
      cases result with
      | error err =>
        rw [evaluateAll_cons_of_error hc] at hvs
        cases hvs
      | ok o =>
        rw [evaluateAll_cons_of_ok hc] at hvs
        obtain ⟨⟨vs', ms'⟩, hrest, hpair⟩ := map_eq_ok_iff.mp hvs
        cases hpair
        have hfirst : o.Evidenced content := he o (by rw [hc])
        obtain ⟨hlength, hpieces, hsome⟩ := ih hes hrest
        refine ⟨congrArg Nat.succ hlength, ?_, ?_⟩
        · exact List.forall_mem_append.mpr ⟨hfirst.pieces, hpieces⟩
        · intro htrue hnone
          obtain ⟨hnone, hnone'⟩ := List.append_eq_nil_iff.mp hnone
          rcases List.mem_cons.mp htrue with hfound | hfound
          · exact hfirst.nonempty hfound.symm hnone
          · exact hsome hfound hnone'

/-- **Every outcome comes with evidence.** -/
theorem evaluate_evidenced {e : Expression} (h : (e.evaluate content).1 = .ok o) :
    o.Evidenced content := by
  induction e generalizing o with
  | leaf l =>
    rw [Expression.evaluate] at h
    exact leafEvaluate_evidenced h
  | compound op es ih =>
    cases es with
    | nil =>
      rw [Expression.evaluate] at h
      cases h
    | cons e es =>
      rw [evaluate_cons] at h
      obtain ⟨⟨vs, ms⟩, hvs, hout⟩ := map_eq_ok_iff.mp h
      obtain ⟨hlength, hpieces, hsome⟩ := evaluateAll_evidenced (fun e he o => ih e he) hvs
      rw [← hout]
      refine ⟨hpieces, ?_⟩
      intro hfound
      have hvs : vs ≠ [] := List.ne_nil_of_length_eq_add_one hlength
      exact hsome (true_mem_of_verdict hvs hfound)

end Outcomes

end Pattern

/-! ## 2. Polls -/

section Polls

variable [Regex.Engine] {m : Monitor} {p : Plan} {result : PollResult}

/-- **A poll that found something** had a page, and ran its plan on it. -/
theorem exists_content_of_found {watch : Watch} {fetch : PageFetch}
    (h : (p.poll watch fetch).1.found = true) :
    ∃ content o, fetch watch = .ok content ∧ (p.run content).1 = .ok o ∧
      (p.poll watch fetch).1 = .verdict o := by
  unfold Plan.poll at h ⊢
  cases hfetch : fetch watch with
  | error err =>
    rw [hfetch] at h
    cases h
  | ok content =>
    rw [hfetch] at h
    dsimp only at h ⊢
    cases hrun : p.run content with
    | mk answer p' =>
      rw [hrun] at h
      cases answer with
      | error err => cases h
      | ok o => exact ⟨content, o, rfl, by rw [hrun], rfl⟩

/-- **What a call found is on the page that it had**, and it is not nothing. -/
theorem exists_page_of_found {call : Call} (hstep : (m.step call).1.result? = some result)
    (hfound : result.found = true) :
    ∃ v content, call.visit? = some v ∧ v.fetch m.watch = .ok content ∧
      (∀ text ∈ result.matched, text.toList <:+: content.toList) ∧ result.matched ≠ [] := by
  obtain ⟨v, hv, hpoll⟩ := result_of_step hstep
  have hpoll : result = (m.plan.poll m.watch v.fetch).1 := hpoll
  rw [hpoll] at hfound
  obtain ⟨content, o, hfetch, hrun, hverdict⟩ := exists_content_of_found hfound
  have hevidence : o.Evidenced content := evaluate_evidenced hrun
  rw [hverdict] at hfound hpoll
  rw [hpoll]
  exact ⟨v, content, hv, hfetch, hevidence.pieces, hevidence.nonempty hfound⟩

end Polls

/-! ## 3. The text of an alert -/

/-- **The lines of a list of matches**: every match in order, with its number in front. -/
theorem matchLines_eq_join (number : Nat) (ms : List String) :
    matchLines number ms =
      String.join ((ms.zipIdx number).map fun (m, i) => "\n  [" ++ toString i ++ "] " ++ m) := by
  induction ms generalizing number with
  | nil => rfl
  | cons m ms ih => rw [matchLines, ih, List.zipIdx_cons, List.map_cons, String.join_cons]

section Alerts

variable {w : Watch} {result result' : PollResult} {timestamp : Nat}

theorem cause?_of_found (h : result.found = true) : result.cause? = none := by
  cases result with
  | verdict o => rfl
  | failed err => cases h

/-- **The text of an alert about something found.** -/
theorem alertText_of_found (hfound : result.found = true) (hsome : result.matched ≠ []) :
    w.alertText result timestamp =
      "[" ++ toString timestamp ++ "] Pattern '" ++ w.search.pattern ++ "' FOUND on " ++ w.url ++
        "\n\nMatches found:" ++ String.join ((result.matched.zipIdx 1).map fun (m, i) =>
          "\n  [" ++ toString i ++ "] " ++ m) := by
  have hcause := cause?_of_found hfound
  have hlist : matchList result = "\n\nMatches found:" ++ matchLines 1 result.matched := by
    rw [matchList, if_pos]
    simp [hfound, hsome]
  rw [Watch.alertText, hcause, hlist, matchLines_eq_join, if_pos hfound]
  simp [String.append_assoc]

/-- Where nothing was found, what was matched is not told. -/
theorem alertText_of_not_found (h : result.found = false) (h' : result'.found = false)
    (hcause : result.cause? = result'.cause?) :
    w.alertText result timestamp = w.alertText result' timestamp := by
  have hlist : ∀ {result : PollResult}, result.found = false → matchList result = "" := by
    intro result h
    rw [matchList, if_neg]
    simp [h]
  rw [Watch.alertText, Watch.alertText, hcause, hlist h, hlist h', h, h']

end Alerts

/-- **What is found comes with evidence.** (1) All matches of an outcome are pieces of the text that
    was searched, whatever the expression is, and if it is found there is at least one. (2) So if a
    poll or a round of a monitor finds something, it had a page, its matches are pieces of the page
    and there is at least one, and the text of the alert for any watch and any time lists them all
    in order, numbered from 1. (3) The text does not depend on what was matched where the search is
    not found. -/
theorem found_has_evidence [Regex.Engine] :
    (∀ (e : Expression) content o, (e.evaluate content).1 = .ok o →
      (∀ text ∈ o.matched, text.toList <:+: content.toList) ∧
        (o.found = true → o.matched ≠ [])) ∧
    (∀ (m : Monitor) call result, (m.step call).1.result? = some result → result.found = true →
      (∃ v content, call.visit? = some v ∧ v.fetch m.watch = .ok content ∧
        ∀ text ∈ result.matched, text.toList <:+: content.toList) ∧
      result.matched ≠ [] ∧
      ∀ (w : Watch) timestamp, w.alertText result timestamp =
        "[" ++ toString timestamp ++ "] Pattern '" ++ w.search.pattern ++ "' FOUND on " ++ w.url ++
          "\n\nMatches found:" ++ String.join ((result.matched.zipIdx 1).map fun (text, i) =>
            "\n  [" ++ toString i ++ "] " ++ text)) ∧
    ∀ result result' : PollResult, result.found = false → result'.found = false →
      result.cause? = result'.cause? →
      ∀ (w : Watch) timestamp, w.alertText result timestamp = w.alertText result' timestamp := by
  refine ⟨?_, ?_, ?_⟩
  · intro e content o h
    have hevidence : o.Evidenced content := evaluate_evidenced h
    exact ⟨hevidence.pieces, hevidence.nonempty⟩
  · intro m call result hstep hfound
    obtain ⟨v, content, hv, hfetch, hpieces, hsome⟩ := exists_page_of_found hstep hfound
    exact ⟨⟨v, content, hv, hfetch, hpieces⟩, hsome,
      fun w timestamp => alertText_of_found hfound hsome⟩
  · intro result result' h h' hcause w timestamp
    exact alertText_of_not_found h h' hcause

/-- An operator that is found, a poll that found something, and a match that is not told. -/
theorem found_has_evidence_partly :
    (∃ o, ((Expression.compound .and [.leaf (.fresh .string "x"), .compound .or
        [.leaf (.fresh .string "y"), .leaf (.fresh .string "z")]]).evaluate "z x").1 = .ok o ∧
      (∀ text ∈ o.matched, text.toList <:+: "z x".toList) ∧ o.matched ≠ []) ∧
    (∃ m result, Monitor.start
        ⟨"u", ⟨.string, "x", "", .found⟩, ⟨none, some ⟨"d"⟩, none⟩, 0, .http⟩ {} = .ok m ∧
      (m.poll ⟨fun _ => .ok "z x", none⟩).1 = result ∧ result.matched ≠ [] ∧
      m.watch.alertText result 7 = "[7] Pattern 'x' FOUND on u\n\nMatches found:\n  [1] x") ∧
    ∃ o, ((Expression.compound .and [.leaf (.fresh .string "x"),
        .leaf (.fresh .string "y")]).evaluate "z x").1 = .ok o ∧ o.matched = ["x"] ∧
      ∀ (w : Watch) timestamp,
        w.alertText (.verdict o) timestamp = w.alertText (.verdict ⟨false, []⟩) timestamp := by
  obtain ⟨houtcome, hpoll, htext⟩ := found_has_evidence
  refine ⟨?_, ?_, ?_⟩
  · obtain ⟨hpieces, hsome⟩ := houtcome (.compound .and [.leaf (.fresh .string "x"), .compound .or
      [.leaf (.fresh .string "y"), .leaf (.fresh .string "z")]]) "z x" ⟨true, ["x", "z"]⟩ rfl
    exact ⟨_, rfl, hpieces, hsome rfl⟩
  · obtain ⟨-, hsome, halert⟩ := hpoll ⟨{}, ⟨"u", ⟨.string, "x", "", .found⟩,
        ⟨none, some ⟨"d"⟩, none⟩, 0, .http⟩, ⟨.string, "x", .leaf (.fresh .string "x")⟩⟩
      (.poll ⟨fun _ => .ok "z x", none⟩) (.verdict ⟨true, ["x"]⟩) rfl rfl
    refine ⟨_, _, rfl, rfl, hsome, ?_⟩
    exact (halert _ 7).trans rfl
  · exact ⟨⟨false, ["x"]⟩, rfl, rfl, htext _ _ rfl rfl rfl⟩

end PageWatch
