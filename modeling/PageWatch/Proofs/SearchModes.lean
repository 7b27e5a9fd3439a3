import PageWatch.Proofs.Acceptance
import PageWatch.Proofs.Composition

/-!
# One search in three modes

A search for a text or for a regular expression can be asked for as an expression too: the kind, a
colon, and the pattern between double quotes (`Search.asExpression`). It is then read from its text
and comes to stand under `AND`, where it was a leaf by itself before.

* `Rules.readyLeaf`: what the rules make of a leaf. `expression_of_kind` and
  `expression_asExpression` say of either search that it becomes this leaf, or is refused with its
  error;
* `Plan.Wraps`: **a plan has the expression of another one under `AND`**. It stays so over every
  run (`Plan.Wraps.after`), and both plans have the same outcomes (`Plan.Wraps.run`);
* `ofSearch_cases`: both searches are made ready, one wrapping the other, or both are refused.

Main statement: `modes_agree`.
-/

namespace PageWatch

open PageWatch.Pattern

/-! ## 1. Searches for one leaf -/

/-- The mode of a search for a single leaf. -/
def Pattern.LeafKind.mode : LeafKind → SearchMode
  | .string => .string
  | .regex => .regex

/-- **The same search as an expression**: the kind, a colon, and the pattern between double
    quotes. -/
def Search.asExpression (s : Search) (kind : LeafKind) : Search :=
  { s with
    mode := .compound
    pattern := kind.name ++ ":" ++ String.ofList (quotation '"' s.pattern.toList) }

section Engine

variable [Regex.Engine]

/-- What the rules make of a leaf: if they want it, it is compiled. -/
def Pattern.Rules.readyLeaf (rules : Rules) (l : Leaf) : Except RegexError Leaf :=
  if rules.compileAhead then l.compile.1.map fun _ => l.compile.2 else .ok l

section Expressions

variable {s : Search} {rules : Rules} {kind : LeafKind}

/-- **A search for a leaf becomes the leaf.** -/
theorem expression_of_kind (h : s.mode = kind.mode) :
    s.expression rules =
      ((rules.readyLeaf (.fresh kind s.pattern)).map .leaf).mapError .badRegex := by
  unfold Search.expression Rules.readyLeaf
  rw [h]
  cases kind with
  | string => cases rules.compileAhead <;> rfl
  | regex =>
    dsimp only [LeafKind.mode]
    cases rules.compileAhead with
    | false => rfl
    | true =>
      rw [if_pos rfl, if_pos rfl, Expression.compile]
      cases (Leaf.fresh .regex s.pattern).compile.1 <;> rfl

theorem expression_of_compound (h : s.mode = .compound) :
    s.expression rules = (parse s.pattern rules).mapError .badExpression := by
  unfold Search.expression
  rw [h]
  cases parse s.pattern rules <;> rfl

/-- **The text of a leaf is read as the leaf**, under `AND`. -/
theorem parse_written_leaf {l : Leaf} (h : l.pattern ≠ "") :
    parse (Expression.leaf l).written rules =
      ((rules.readyLeaf l.forget).map fun l => .compound .and [.leaf l]).mapError .badRegex := by
  have hread : parse (Expression.leaf l).written ⟨rules.maxNesting, false⟩ =
      .ok (.compound .and [.leaf l.forget]) :=
    (parse_written_eq_ok_iff (.leaf h) (Nat.zero_le _)).mpr (by rw [forget_leaf]; rfl)
  obtain ⟨d, ahead⟩ := rules
  cases ahead with
  | false => exact hread
  | true =>
    have hleaf : (Expression.leaf l.forget).compile =
        (l.forget.compile.1, .leaf l.forget.compile.2) := by rw [Expression.compile]
    rw [parse_ahead, hread, Rules.readyLeaf, if_pos rfl]
    dsimp only
    rw [compile_compound]
    cases hresult : l.forget.compile.1 with
    | ok u =>
      rw [hresult] at hleaf
      rw [compileAll_cons_of_ok hleaf]
      rfl
    | error x =>
      rw [hresult] at hleaf
      rw [compileAll_cons_of_error hleaf]
      rfl

/-- **The search as an expression becomes the same leaf**, under `AND`. -/
theorem expression_asExpression (h : s.pattern ≠ "") :
    (s.asExpression kind).expression rules =
      ((rules.readyLeaf (.fresh kind s.pattern)).map fun l => .compound .and [.leaf l]).mapError
        fun x => .badExpression (.badRegex x) := by
  have htext : (s.asExpression kind).pattern =
      (Expression.leaf (.fresh kind s.pattern)).written := by
    rw [← String.toList_inj]
    simp [Search.asExpression, Expression.written, Expression.writtenIn, Leaf.written, Leaf.fresh]
  rw [expression_of_compound rfl, htext, parse_written_leaf (l := .fresh kind s.pattern) h]
  show ((rules.readyLeaf (.fresh kind s.pattern)).map _ |>.mapError _).mapError _ = _
  cases rules.readyLeaf (.fresh kind s.pattern) <;> rfl

end Expressions

/-! ## 2. Plans under an operator -/

/-- The plan `q` has the expression of `p` under `AND`. -/
def Plan.Wraps (q p : Plan) : Prop := q.expression = .compound .and [p.expression]

section Wrapped

variable {p q : Plan}

/-- **The same outcomes**, and errors that are one step further away. -/
theorem Plan.Wraps.run (h : q.Wraps p) (content : String) :
    (q.run content).1 = (p.run content).1.mapError (.child 1) ∧
      (q.run content).2.Wraps (p.run content).2 := by
  have hrun := evaluate_lone .and p.expression content
  rw [← h] at hrun
  exact ⟨congrArg Prod.fst hrun, congrArg Prod.snd hrun⟩

/-- What is compiled on the way stays in the same place. -/
theorem Plan.Wraps.after (h : q.Wraps p) (contents : List String) :
    (q.after contents).Wraps (p.after contents) := by
  induction contents generalizing p q with
  | nil => exact h
  | cons content contents ih => exact ih (h.run content).2

/-- **Wrapping cannot be seen in outcomes and causes.** -/
theorem Plan.Wraps.agrees (h : q.Wraps p) (content : String) :
    (p.run content).1.mapError EvalError.cause = (q.run content).1.mapError EvalError.cause := by
  rw [(h.run content).1]
  cases (p.run content).1 with
  | error err => rfl
  | ok o => rfl

end Wrapped

/-! ## 3. The modes -/

section Modes

variable {s : Search} {rules : Rules} {kind : LeafKind}

theorem ofSearch_eq_map (h : rules.check = .ok ()) (s : Search) :
    Plan.ofSearch s rules = (s.expression rules).map fun e => ⟨s.mode, s.pattern, e⟩ := by
  rw [Plan.ofSearch, h]

/-- **If the leaf can be made ready, both searches are**, and one wraps the other. -/
theorem ofSearch_of_ready (hrules : rules.check = .ok ()) (hp : s.pattern ≠ "")
    (hmode : s.mode = kind.mode) {l : Leaf}
    (hl : rules.readyLeaf (.fresh kind s.pattern) = .ok l) :
    ∃ p q, Plan.ofSearch s rules = .ok p ∧ Plan.ofSearch (s.asExpression kind) rules = .ok q ∧
      p.expression = .leaf l ∧ q.Wraps p := by
  rw [ofSearch_eq_map hrules, ofSearch_eq_map hrules, expression_of_kind hmode,
    expression_asExpression hp, hl]
  exact ⟨_, _, rfl, rfl, rfl, rfl⟩

/-- **If it cannot, both searches are refused**, with the same error of the leaf. -/
theorem ofSearch_of_not_ready (hrules : rules.check = .ok ()) (hp : s.pattern ≠ "")
    (hmode : s.mode = kind.mode) {x : RegexError}
    (hx : rules.readyLeaf (.fresh kind s.pattern) = .error x) :
    Plan.ofSearch s rules = .error (.badRegex x) ∧
      Plan.ofSearch (s.asExpression kind) rules = .error (.badExpression (.badRegex x)) := by
  rw [ofSearch_eq_map hrules, ofSearch_eq_map hrules, expression_of_kind hmode,
    expression_asExpression hp, hx]
  exact ⟨rfl, rfl⟩

/-- **Both searches are made ready or both are refused.** -/
theorem ofSearch_cases (hrules : rules.check = .ok ()) (hp : s.pattern ≠ "")
    (hmode : s.mode = kind.mode) :
    (∃ p q, Plan.ofSearch s rules = .ok p ∧ Plan.ofSearch (s.asExpression kind) rules = .ok q ∧
      q.Wraps p) ∨
    ∃ x, Plan.ofSearch s rules = .error (.badRegex x) ∧
      Plan.ofSearch (s.asExpression kind) rules = .error (.badExpression (.badRegex x)) := by
  cases hready : rules.readyLeaf (.fresh kind s.pattern) with
  | ok l =>
    obtain ⟨p, q, hp, hq, -, hwraps⟩ := ofSearch_of_ready hrules hp hmode hready
    exact .inl ⟨p, q, hp, hq, hwraps⟩
  | error x => exact .inr ⟨x, ofSearch_of_not_ready hrules hp hmode hready⟩

/-- **Either search is refused if the other one is**, with the same error of the leaf. -/
theorem ofSearch_eq_error_iff (hrules : rules.check = .ok ()) (hp : s.pattern ≠ "")
    (hmode : s.mode = kind.mode) {err : WatchError} :
    (Plan.ofSearch s rules = .error err ↔ ∃ x, err = .badRegex x ∧
      Plan.ofSearch (s.asExpression kind) rules = .error (.badExpression (.badRegex x))) ∧
    (Plan.ofSearch (s.asExpression kind) rules = .error err ↔
      ∃ x, err = .badExpression (.badRegex x) ∧ Plan.ofSearch s rules = .error (.badRegex x)) := by
  rcases ofSearch_cases hrules hp hmode with ⟨p, q, hp, hq, -⟩ | ⟨x, hp, hq⟩
  · simp [hp, hq]
  · simp [hp, hq, eq_comm]

/-- A search for a regular expression is made ready unless it has to be compiled and cannot be. -/
theorem exists_ofSearch_iff (hrules : rules.check = .ok ()) (hmode : s.mode = .regex) :
    (∃ p, Plan.ofSearch s rules = .ok p) ↔
      (rules.compileAhead = true → (Regex.Engine.compile s.pattern).isOk = true) := by
  have hkind : s.mode = LeafKind.regex.mode := hmode
  have hcompiles : (Leaf.fresh .regex s.pattern).compile.1 = .ok () ↔
      (Regex.Engine.compile s.pattern).isOk = true := by
    rw [leafCompile_eq_ok_iff (faithful_leaf.mp (faithful_fresh .regex s.pattern))]
    exact ⟨fun hc => hc rfl, fun hc _ => hc⟩
  rw [ofSearch_eq_map hrules, expression_of_kind hkind, ← hcompiles, Rules.readyLeaf]
  cases rules.compileAhead with
  | false => simp
  | true => cases (Leaf.fresh .regex s.pattern).compile.1 <;> simp

theorem readyLeaf_string (rules : Rules) (pattern : String) :
    rules.readyLeaf (.fresh .string pattern) = .ok (.fresh .string pattern) := by
  unfold Rules.readyLeaf
  cases rules.compileAhead <;> rfl

/-- A search for a text has an outcome on every page, under all rules. -/
theorem exists_outcome_of_string {p : Plan} {pattern : String}
    (h : p.expression = .leaf (.fresh .string pattern)) (contents : List String)
    (content : String) : ∃ o, ((p.after contents).run content).1 = .ok o := by
  have hself : p.Learned p := ⟨rfl, rfl, rfl, by rw [h]; exact faithful_fresh _ _⟩
  have hl := (hself.after contents).expression
  have hc : ∀ l ∈ p.expression.leaves, l.Compiles := by
    rw [h, leaves_leaf, List.forall_mem_singleton]
    intro hregex
    cases hregex
  exact exists_outcome hl.faithful (hl.populated (by rw [h]; exact .leaf _)) (hl.compiles hc)
    content

end Modes

/-- **The three modes are one search.** Under all rules that are accepted, and for every pattern
    with at least one character: (1) a search for a text and the same search as an expression are
    both made ready, and both have the same outcome on every page, whatever pages they were run on
    before. (2) A search for a regular expression is made ready unless it has to be compiled ahead
    and cannot be. It is refused if and only if the same search as an expression is refused, and the
    error of the regular expression is the same. If both are made ready, they have the same outcome
    on every page, or both fail there for the same cause. -/
theorem modes_agree {s : Search} {rules : Rules} (hrules : rules.check = .ok ())
    (hp : s.pattern ≠ "") :
    (s.mode = .string → ∃ p q, Plan.ofSearch s rules = .ok p ∧
      Plan.ofSearch (s.asExpression .string) rules = .ok q ∧
      ∀ contents content, ∃ o, ((p.after contents).run content).1 = .ok o ∧
        ((q.after contents).run content).1 = .ok o) ∧
    (s.mode = .regex →
      ((∃ p, Plan.ofSearch s rules = .ok p) ↔
        (rules.compileAhead = true → (Regex.Engine.compile s.pattern).isOk = true)) ∧
      (∀ err, Plan.ofSearch s rules = .error err ↔ ∃ x, err = .badRegex x ∧
        Plan.ofSearch (s.asExpression .regex) rules = .error (.badExpression (.badRegex x))) ∧
      (∀ err, Plan.ofSearch (s.asExpression .regex) rules = .error err ↔
        ∃ x, err = .badExpression (.badRegex x) ∧
          Plan.ofSearch s rules = .error (.badRegex x)) ∧
      ∀ p q, Plan.ofSearch s rules = .ok p → Plan.ofSearch (s.asExpression .regex) rules = .ok q →
        ∀ contents content,
          ((p.after contents).run content).1.mapError EvalError.cause =
            ((q.after contents).run content).1.mapError EvalError.cause) := by
  refine ⟨fun hmode => ?_, fun hmode => ?_⟩
  · have hkind : s.mode = LeafKind.string.mode := hmode
    have hready := readyLeaf_string rules s.pattern
    obtain ⟨p, q, hp, hq, hleaf, hwraps⟩ := ofSearch_of_ready hrules hp hkind hready
    refine ⟨p, q, hp, hq, fun contents content => ?_⟩
    obtain ⟨o, ho⟩ := exists_outcome_of_string hleaf contents content
    have hsame := (hwraps.after contents).agrees content
    rw [ho, mapError_ok, eq_comm, mapError_eq_ok_iff] at hsame
    exact ⟨o, ho, hsame⟩
  · have hkind : s.mode = LeafKind.regex.mode := hmode
    refine ⟨exists_ofSearch_iff hrules hmode,
      fun err => (ofSearch_eq_error_iff hrules hp hkind).1,
      fun err => (ofSearch_eq_error_iff hrules hp hkind).2, ?_⟩
    intro p q hplan hplan' contents content
    rcases ofSearch_cases hrules hp hkind with ⟨p', q', hp', hq', hwraps⟩ | ⟨x, hrefused, -⟩
    · obtain rfl : p = p' := Except.ok.inj (hplan.symm.trans hp')
      obtain rfl : q = q' := Except.ok.inj (hplan'.symm.trans hq')
      exact (hwraps.after contents).agrees content
    · rw [hplan] at hrefused
      cases hrefused

end Engine

/-- A text that looks like an expression, and a regular expression that cannot be compiled, which is
    refused or, under rules that compile nothing ahead, fails later. -/
theorem modes_agree_quoted :
    (∃ p q, Plan.ofSearch ⟨.string, "regex:\"x AND (", "", .found⟩ {} = .ok p ∧
      Plan.ofSearch ⟨.compound, "string:\"regex:\\\"x AND (\"", "", .found⟩ {} = .ok q ∧
      ∃ o, (p.run "a regex:\"x AND ( b").1 = .ok o ∧
        (q.run "a regex:\"x AND ( b").1 = .ok o) ∧
    (∃ x, Plan.ofSearch ⟨.regex, "[", "", .found⟩ {} = .error (.badRegex x) ∧
      Plan.ofSearch ⟨.compound, "regex:\"[\"", "", .found⟩ {} =
        .error (.badExpression (.badRegex x))) ∧
    ∃ p q, Plan.ofSearch ⟨.regex, "[", "", .found⟩ ⟨1, false⟩ = .ok p ∧
      Plan.ofSearch ⟨.compound, "regex:\"[\"", "", .found⟩ ⟨1, false⟩ = .ok q ∧
      (p.run "x").1.mapError EvalError.cause = (q.run "x").1.mapError EvalError.cause := by
  have hstring : Search.asExpression ⟨.string, "regex:\"x AND (", "", .found⟩ .string =
      ⟨.compound, "string:\"regex:\\\"x AND (\"", "", .found⟩ := by decide
  have hregex : Search.asExpression ⟨.regex, "[", "", .found⟩ .regex =
      ⟨.compound, "regex:\"[\"", "", .found⟩ := by decide
  have hrefused : (Regex.Engine.compile "[").isOk = false := by decide +kernel
  obtain ⟨x, hready⟩ : ∃ x, Rules.readyLeaf {} (.fresh .regex "[") = .error x := by
    cases hc : Regex.Engine.compile "[" with
    | ok r =>
      rw [hc] at hrefused
      cases hrefused
    | error reason =>
      refine ⟨⟨"[", reason⟩, ?_⟩
      simp [Rules.readyLeaf, Leaf.compile, Leaf.regex, Leaf.fresh, compileRegex, hc]
  refine ⟨?_, ?_, ?_⟩
  · obtain ⟨p, q, hp, hq, houtcome⟩ :=
      (@modes_agree _ ⟨.string, "regex:\"x AND (", "", .found⟩ {} rfl (by decide)).1 rfl
    rw [hstring] at hq
    exact ⟨p, q, hp, hq, houtcome [] _⟩
  · obtain ⟨-, herror, -, -⟩ := (@modes_agree _ ⟨.regex, "[", "", .found⟩ {} rfl (by decide)).2 rfl
    have hbad := (@ofSearch_of_not_ready _ ⟨.regex, "[", "", .found⟩ {} .regex rfl (by decide) rfl
      _ hready).1
    obtain ⟨x, hx, hcompound⟩ := (herror _).mp hbad
    rw [hregex] at hcompound
    rw [hx] at hbad
    exact ⟨x, hbad, hcompound⟩
  · obtain ⟨p, q, hp, hq, -, -⟩ :=
      @ofSearch_of_ready _ ⟨.regex, "[", "", .found⟩ ⟨1, false⟩ .regex rfl (by decide) rfl _ rfl
    obtain ⟨-, -, -, hruns⟩ :=
      (@modes_agree _ ⟨.regex, "[", "", .found⟩ ⟨1, false⟩ rfl (by decide)).2 rfl
    have hsame := hruns p q hp hq [] "x"
    rw [hregex] at hq
    exact ⟨p, q, hp, hq, hsame⟩

end PageWatch
