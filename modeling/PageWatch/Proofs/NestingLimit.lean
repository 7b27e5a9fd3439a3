import PageWatch.Proofs.FirstFault

/-!
# The nesting limit

The limit on nested parentheses is **a threshold, and nothing else**: reading either comes to a
group that is too deep, or it does not notice the limit at all. Two runs over the same tokens are
compared, one under the limit and one whose limit always leaves room for one more group.

* `Place.reach`: how many groups are open at once, at most, where reading comes without a limit;
* `groups_of_step` and `step_cases`: what one token does to the groups, and **what a limit can
  change about it**;
* `read_of_lt_reach`: a limit below the reach is met, whatever else is wrong with the tokens;
* `read_eq_of_reach_le`: all limits from the reach on give the same answer.

Main statement: `ofTokens_nesting_threshold`.
-/

namespace PageWatch.Pattern

/-! ## 1. How deep reading comes -/

/-- How many groups are open at once, at most, when tokens are read from a place on without a
    limit; `i` is the position of the first of them. Tokens behind the first fault do not count. -/
def Place.reach (i : Nat) (p : Place) : List Token → Nat
  | [] => p.groups.length
  | t :: ts =>
    match p.step (p.groups.length + 1) i t with
    | .error _ => p.groups.length
    | .ok q => max p.groups.length (q.reach (i + 1) ts)

section Reach

variable {d i : Nat} {p q : Place} {t : Token} {ts : List Token} {x : ParseError}

theorem groups_le_reach (i : Nat) (p : Place) (ts : List Token) :
    p.groups.length ≤ p.reach i ts := by
  cases ts with
  | nil => exact Nat.le_refl _
  | cons t ts =>
    rw [Place.reach]
    split
    · exact Nat.le_refl _
    · exact Nat.le_max_left _ _

theorem reach_cons_of_error (h : p.step (p.groups.length + 1) i t = .error x) :
    p.reach i (t :: ts) = p.groups.length := by
  rw [Place.reach, h]

theorem reach_cons_of_ok (h : p.step (p.groups.length + 1) i t = .ok q) :
    p.reach i (t :: ts) = max p.groups.length (q.reach (i + 1) ts) := by
  rw [Place.reach, h]

/-- A group is opened while the limit leaves room for it. -/
theorem step_opening_of_lt {before : Before} {groups : List Group} {level : Level}
    (h : groups.length < d) :
    (Place.awaits before groups level).step d i .opening =
      .ok (.awaits (.opening i) (⟨i, level⟩ :: groups) .start) := by
  rw [Place.step, if_neg (Nat.not_le.mpr h)]

/-- With room for one more group, it is opened. -/
theorem step_opening (i : Nat) (before : Before) (groups : List Group) (level : Level) :
    (Place.awaits before groups level).step (groups.length + 1) i .opening =
      .ok (.awaits (.opening i) (⟨i, level⟩ :: groups) .start) :=
  step_opening_of_lt (Nat.lt_succ_self _)

/-- **What a token does to the groups**: an opening parenthesis adds one if the limit leaves room
    for it, and no other token adds any. -/
theorem groups_of_step (h : p.step d i t = .ok q) :
    (t = .opening ∧ p.groups.length < d ∧ q.groups.length = p.groups.length + 1) ∨
      q.groups.length ≤ p.groups.length := by
  cases p with
  | awaits before groups level =>
    cases t with
    | opening =>
      rw [Place.step] at h
      split at h
      · cases h
      · next hlt =>
        cases h
        exact .inl ⟨rfl, Nat.not_le.mp hlt, rfl⟩
    | closing => cases h
    | operator op => cases h
    | leaf raw =>
      obtain ⟨l, -, rfl⟩ := map_eq_ok_iff.mp h
      exact .inr (Nat.le_refl _)
  | behind groups level =>
    cases t with
    | opening => cases h
    | leaf raw => cases h
    | operator op =>
      cases op with
      | and =>
        cases h
        exact .inr (Nat.le_refl _)
      | or =>
        cases h
        exact .inr (Nat.le_refl _)
    | closing =>
      cases groups with
      | nil => cases h
      | cons g groups =>
        cases h
        exact .inr (Nat.le_succ _)

/-- A limit that has been kept stays kept. -/
theorem groups_le_of_step (hd : p.groups.length ≤ d) (h : p.step d i t = .ok q) :
    q.groups.length ≤ d := by
  rcases groups_of_step h with ⟨-, hlt, hq⟩ | hq
  · omega
  · omega

/-- **What a limit can change in one step**: nothing, or it refuses the one group that would be too
    many. `d` is a limit that has been kept so far. -/
theorem step_cases (hd : p.groups.length ≤ d) (i : Nat) (t : Token) :
    p.step d i t = p.step (p.groups.length + 1) i t ∨
      (p.step d i t = .error (.nestingTooDeep d) ∧
        ∃ q, p.step (p.groups.length + 1) i t = .ok q ∧ q.groups.length = d + 1) := by
  cases p with
  | awaits before groups level =>
    cases t with
    | opening =>
      have hfree := step_opening i before groups level
      by_cases hlt : groups.length < d
      · exact .inl ((step_opening_of_lt hlt).trans hfree.symm)
      · have heq : groups.length = d := Nat.le_antisymm hd (Nat.le_of_not_lt hlt)
        refine .inr ⟨?_, _, hfree, ?_⟩
        · rw [Place.step, if_pos (Nat.le_of_eq heq.symm)]
        · show groups.length + 1 = d + 1
          rw [heq]
    | closing => exact .inl rfl
    | operator op => exact .inl rfl
    | leaf raw => exact .inl rfl
  | behind groups level =>
    cases t with
    | opening => exact .inl rfl
    | closing => exact .inl (by cases groups <;> rfl)
    | operator op => exact .inl (by cases op <;> rfl)
    | leaf raw => exact .inl rfl

/-- Reading comes no deeper than parentheses open. -/
theorem reach_le (i : Nat) (p : Place) (ts : List Token) :
    p.reach i ts ≤ p.groups.length + ts.count .opening := by
  induction ts generalizing p i with
  | nil => exact Nat.le_refl _
  | cons t ts ih =>
    cases hstep : p.step (p.groups.length + 1) i t with
    | error x =>
      rw [reach_cons_of_error hstep]
      exact Nat.le_add_right _ _
    | ok q =>
      have hrest := ih (i + 1) q
      rw [reach_cons_of_ok hstep]
      rcases groups_of_step hstep with ⟨rfl, -, hq⟩ | hq
      · rw [List.count_cons_self]
        omega
      · have hcount : ts.count .opening ≤ (t :: ts).count .opening := List.count_le_count_cons
        omega

end Reach

/-! ## 2. Reading under a limit -/

section Limit

variable {d d' i : Nat} {p q : Place} {t : Token} {ts : List Token}

/-- **A limit below the reach is met.** -/
theorem read_of_lt_reach (hd : p.groups.length ≤ d) (h : d < p.reach i ts) :
    p.read d i ts = .error (.nestingTooDeep d) := by
  induction ts generalizing p i with
  | nil =>
    have h : d < p.groups.length := h
    omega
  | cons t ts ih =>
    rcases step_cases hd i t with hfree | ⟨hdeep, -⟩
    · cases hstep : p.step d i t with
      | error x =>
        rw [reach_cons_of_error (hfree.symm.trans hstep)] at h
        omega
      | ok q =>
        rw [reach_cons_of_ok (hfree.symm.trans hstep)] at h
        rw [read_cons_of_ok hstep]
        exact ih (groups_le_of_step hd hstep) (by omega)
    · exact read_cons_of_error hdeep

/-- A limit that the tokens keep changes no step. -/
theorem step_of_reach_le (h : p.reach i (t :: ts) ≤ d) :
    p.step d i t = p.step (p.groups.length + 1) i t := by
  have hd : p.groups.length ≤ d := Nat.le_trans (groups_le_reach i p (t :: ts)) h
  rcases step_cases hd i t with hfree | ⟨-, q, hq, hlen⟩
  · exact hfree
  · -- The group that is one too many would count in the reach.
    have hreach := groups_le_reach (i + 1) q ts
    rw [reach_cons_of_ok hq] at h
    omega

/-- **Limits that the tokens keep cannot be told apart.** -/
theorem read_eq_of_reach_le (h : p.reach i ts ≤ d) (h' : p.reach i ts ≤ d') :
    p.read d i ts = p.read d' i ts := by
  induction ts generalizing p i with
  | nil =>
    cases p with
    | awaits before groups level => rw [Place.read, Place.read, readOperand, readOperand]
    | behind groups level =>
      rw [Place.read, Place.read]
      cases groups <;> rw [readOperator, readOperator]
  | cons t ts ih =>
    have hstep := step_of_reach_le h
    have hstep' := step_of_reach_le h'
    rw [read_cons, read_cons, hstep, hstep']
    cases hfree : p.step (p.groups.length + 1) i t with
    | error x => rfl
    | ok q =>
      rw [reach_cons_of_ok hfree] at h h'
      exact ih (by omega) (by omega)

/-- The end of the tokens is never too deep. -/
theorem read_nil_ne_nestingTooDeep (d i n : Nat) (p : Place) :
    p.read d i [] ≠ .error (.nestingTooDeep n) := by
  intro h
  cases p with
  | awaits before groups level =>
    rw [Place.read, readOperand] at h
    cases before <;> cases h
  | behind groups level =>
    rw [Place.read] at h
    cases groups with
    | nil =>
      rw [readOperator] at h
      cases h
    | cons g groups =>
      rw [readOperator] at h
      cases h

/-- With room for one more group, no token is too deep. -/
theorem step_ne_nestingTooDeep (i n : Nat) (p : Place) (t : Token) :
    p.step (p.groups.length + 1) i t ≠ .error (.nestingTooDeep n) := by
  intro h
  cases p with
  | awaits before groups level =>
    cases t with
    | opening => cases (step_opening i before groups level).symm.trans h
    | closing => cases before <;> cases h
    | operator op => cases before <;> cases h
    | leaf raw => cases ofRaw_eq_error (map_eq_error_iff.mp h)
  | behind groups level =>
    cases t with
    | opening => cases h
    | leaf raw => cases h
    | operator op => cases op <;> cases h
    | closing => cases groups <;> cases h

/-- A limit that the tokens keep is not complained of. -/
theorem read_ne_nestingTooDeep (h : p.reach i ts ≤ d) (n : Nat) :
    p.read d i ts ≠ .error (.nestingTooDeep n) := by
  induction ts generalizing p i with
  | nil => exact read_nil_ne_nestingTooDeep d i n p
  | cons t ts ih =>
    rw [read_cons, step_of_reach_le h]
    cases hfree : p.step (p.groups.length + 1) i t with
    | error x =>
      intro hx
      cases hx
      exact step_ne_nestingTooDeep i n p t hfree
    | ok q =>
      rw [reach_cons_of_ok hfree] at h
      exact ih (by omega)

end Limit

/-! ## 3. The threshold -/

/-- **The nesting limit is a threshold.** Tokens have a depth, at most the number of their opening
    parentheses. Under every smaller limit they are nested too deep; under all others they get one
    and the same answer, which is not about nesting. So a limit that is raised changes no tree and
    no other error. -/
theorem ofTokens_nesting_threshold (ts : List Token) :
    (∃ depth ≤ ts.count .opening,
        (∀ d < depth, Expression.ofTokens d ts = .error (.nestingTooDeep d)) ∧
          ∀ d d', depth ≤ d → depth ≤ d' →
            Expression.ofTokens d ts = Expression.ofTokens d' ts ∧
              ∀ n, Expression.ofTokens d ts ≠ .error (.nestingTooDeep n)) ∧
      ∀ d d', d ≤ d' → (∀ n, Expression.ofTokens d ts ≠ .error (.nestingTooDeep n)) →
        Expression.ofTokens d' ts = Expression.ofTokens d ts := by
  have hstart : Place.start.groups.length = 0 := rfl
  have hlow : ∀ d < Place.start.reach 0 ts,
      Expression.ofTokens d ts = .error (.nestingTooDeep d) := by
    intro d hd
    rw [ofTokens_eq, read_of_lt_reach (by omega) hd, map_error]
  have hsame : ∀ d d', Place.start.reach 0 ts ≤ d → Place.start.reach 0 ts ≤ d' →
      Expression.ofTokens d ts = Expression.ofTokens d' ts := by
    intro d d' hd hd'
    rw [ofTokens_eq, ofTokens_eq, read_eq_of_reach_le hd hd']
  refine ⟨⟨Place.start.reach 0 ts, ?_, hlow, fun d d' hd hd' => ⟨hsame d d' hd hd', ?_⟩⟩, ?_⟩
  · have hle := reach_le 0 Place.start ts
    omega
  · intro n hn
    exact read_ne_nestingTooDeep hd n (map_eq_error_iff.mp hn)
  · intro d d' hle hne
    have hd : Place.start.reach 0 ts ≤ d := by
      refine Nat.le_of_not_lt fun hlt => ?_
      exact hne d (hlow d hlt)
    exact hsame d' d (Nat.le_trans hd hle) hd

/-- In `( ( a OR ) ) (` two groups are open at once in front of the fault, and the last parenthesis
    does not count. -/
theorem ofTokens_nesting_threshold_fault :
    Expression.ofTokens 1 [.opening, .opening, .leaf "a", .operator .or, .closing, .closing,
        .opening] = .error (.nestingTooDeep 1) ∧
      ∀ d, 2 ≤ d → Expression.ofTokens d [.opening, .opening, .leaf "a", .operator .or, .closing,
        .closing, .opening] = .error (.missingOperand .or 3) := by
  have hone : Expression.ofTokens 1 [.opening, .opening, .leaf "a", .operator .or, .closing,
      .closing, .opening] = .error (.nestingTooDeep 1) := rfl
  have htwo : Expression.ofTokens 2 [.opening, .opening, .leaf "a", .operator .or, .closing,
      .closing, .opening] = .error (.missingOperand .or 3) := rfl
  refine ⟨hone, fun d hd => ?_⟩
  rw [← htwo]
  refine (ofTokens_nesting_threshold _).2 2 d hd fun n hn => ?_
  rw [htwo] at hn
  cases hn

end PageWatch.Pattern
