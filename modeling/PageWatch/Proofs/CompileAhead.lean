import PageWatch.Proofs.Faults
import PageWatch.Regex.Basic

/-!
# Compiling while reading

The rules decide whether regular expressions are compiled while an expression is read, or when they
are first needed. Reading under the first rule is reading under the second and then compiling
(`parse_ahead`). Main statement: **the rule decides when an error is told, and nothing else**
(`parse_ahead_agrees`).
-/

namespace PageWatch.Pattern

section Engine

variable [Regex.Engine]

/-- **Reading ahead is reading and then compiling.** -/
theorem parse_ahead (s : String) (d : Nat) :
    parse s ⟨d, true⟩ =
      match parse s ⟨d, false⟩ with
      | .error err => .error err
      | .ok e =>
        match e.compile.1 with
        | .ok () => .ok e.compile.2
        | .error x => .error (.badRegex x) := by
  unfold parse
  cases tokenize s with
  | error e => rfl
  | ok ts =>
    dsimp only
    cases Expression.ofTokens d ts with
    | error err => rfl
    | ok e =>
      simp only [if_true, Bool.false_eq_true, if_false]
      cases e.compile with
      | mk result e' => cases result <;> rfl

theorem parse_ahead_of_error {s : String} {d : Nat} {err : ParseError}
    (h : parse s ⟨d, false⟩ = .error err) : parse s ⟨d, true⟩ = .error err := by
  rw [parse_ahead, h]

section Reading

variable {s : String} {d : Nat} {e : Expression}

theorem parse_ahead_of_compiles (h : parse s ⟨d, false⟩ = .ok e)
    (hc : ∀ l ∈ e.leaves, l.Compiles) : parse s ⟨d, true⟩ = .ok e.compile.2 := by
  have hok : e.compile.1 = .ok () := (compile_eq_ok_iff (faithful_of_parse h)).mpr hc
  rw [parse_ahead, h]
  dsimp only
  rw [hok]

theorem parse_ahead_of_firstBadRegex? (h : parse s ⟨d, false⟩ = .ok e) {x : RegexError}
    (hx : e.firstBadRegex? = some x) : parse s ⟨d, true⟩ = .error (.badRegex x) := by
  have herror : e.compile.1 = .error x := (compile_eq_error_iff (faithful_of_parse h)).mpr hx
  rw [parse_ahead, h]
  dsimp only
  rw [herror]

end Reading

/-- **When regular expressions are compiled decides when an error is told, and nothing else.** An
    expression that cannot be read without compiling is refused with the same error. If every
    regular expression in it can be compiled, both ways of reading give the same tree, and an
    outcome, the same one, on every text. If some cannot, reading ahead is refused with the error
    of the first of them from left to right, and the same error is the cause why evaluating the
    expression that was read without compiling fails on every text. -/
theorem parse_ahead_agrees (s : String) (d : Nat) :
    (∀ err, parse s ⟨d, false⟩ = .error err → parse s ⟨d, true⟩ = .error err) ∧
    ∀ e, parse s ⟨d, false⟩ = .ok e →
      ((∀ l ∈ e.leaves, l.Compiles) →
        ∃ e', parse s ⟨d, true⟩ = .ok e' ∧ e'.same e = true ∧
          ∀ content, ∃ o, (e.evaluate content).1 = .ok o ∧ (e'.evaluate content).1 = .ok o) ∧
      ((∃ l ∈ e.leaves, ¬l.Compiles) →
        ∃ x before l after, e.leaves = before ++ l :: after ∧
          (l.kind = .regex ∧ compileRegex l.pattern = .error x) ∧ (∀ l' ∈ before, l'.Compiles) ∧
          parse s ⟨d, true⟩ = .error (.badRegex x) ∧
          ∀ content, ∃ err, (e.evaluate content).1 = .error err ∧ err.cause = .badRegex x) := by
  refine ⟨fun err => parse_ahead_of_error, fun e h => ⟨fun hc => ?_, fun hbad => ?_⟩⟩
  · have hf := faithful_of_parse h
    have hl := compile_learned hf
    refine ⟨_, parse_ahead_of_compiles h hc, same_iff_forget_eq.mpr hl.forget_eq, ?_⟩
    intro content
    obtain ⟨o, ho⟩ := exists_outcome hf (populated_of_parse h) hc content
    refine ⟨o, ho, ?_⟩
    -- Neither tree is told apart from the tree that remembers nothing.
    rw [← evaluate_forget hl.faithful, hl.forget_eq, evaluate_forget hf, ho]
  · obtain ⟨x, hx⟩ : ∃ x, e.firstBadRegex? = some x := by
      refine Option.ne_none_iff_exists'.mp fun hnone => ?_
      obtain ⟨l, hl, hbad⟩ := hbad
      exact hbad (firstBadRegex?_eq_none_iff.mp hnone l hl)
    obtain ⟨before, l, after, hleaves, hl, hbefore⟩ := firstBadRegex?_eq_some_iff.mp hx
    exact ⟨x, before, l, after, hleaves, hl, hbefore, parse_ahead_of_firstBadRegex? h hx,
      evaluate_of_firstBadRegex? (faithful_of_parse h) (populated_of_parse h) hx⟩

end Engine

theorem parse_ahead_agrees_or :
    parse "y OR" ⟨0, true⟩ = .error (.missingOperand .or 1) ∧
      (∃ e', parse "y OR regex:a+" ⟨0, true⟩ = .ok e') ∧
      ∃ e x, parse "y OR regex:[" ⟨0, false⟩ = .ok e ∧
        parse "y OR regex:[" ⟨0, true⟩ = .error (.badRegex x) ∧
        ∀ content, ∃ err, (e.evaluate content).1 = .error err ∧ err.cause = .badRegex x := by
  have hread : ∀ raw leaf, Leaf.ofRaw raw = .ok leaf →
      scan ("y OR " ++ raw).toList = .ok [.leaf "y", .operator .or, .leaf raw] →
      parse ("y OR " ++ raw) ⟨0, false⟩ =
        .ok (.compound .or [.leaf (.fresh .string "y"), .leaf leaf]) := by
    intro raw leaf hleaf hscan
    have hy : Leaf.ofRaw "y" = .ok (.fresh .string "y") := rfl
    rw [parse, tokenize_eq_ok_iff.mpr hscan]
    simp [Expression.ofTokens, readOperand, readOperator, hleaf, hy, Level.finish, Level.endChain,
      Level.push, Level.start, Expression.join, Expression.rooted]
  have hgood := hread "regex:a+" (.fresh .regex "a+") rfl (by decide +kernel)
  have hbad := hread "regex:[" (.fresh .regex "[") rfl (by decide +kernel)
  have herror : parse "y OR" ⟨0, false⟩ = .error (.missingOperand .or 1) := by
    have hscan : scan "y OR".toList = .ok [.leaf "y", .operator .or] := by decide +kernel
    rw [parse, tokenize_eq_ok_iff.mpr hscan]
    rfl
  have hcompiles : (Regex.Engine.compile "a+").isOk = true := by decide +kernel
  have hrefused : ¬(Regex.Engine.compile "[").isOk = true := by decide +kernel
  obtain ⟨e', he', -⟩ := ((parse_ahead_agrees "y OR regex:a+" 0).2 _ hgood).1
    (by simpa [Leaf.Compiles, Leaf.fresh] using hcompiles)
  obtain ⟨x, -, -, -, -, -, -, hx, hevaluate⟩ := ((parse_ahead_agrees "y OR regex:[" 0).2 _ hbad).2
    ⟨.fresh .regex "[", by simp, fun h => hrefused (h rfl)⟩
  exact ⟨(parse_ahead_agrees "y OR" 0).1 _ herror, ⟨e', he'⟩, _, x, hbad, hx, hevaluate⟩

end PageWatch.Pattern
