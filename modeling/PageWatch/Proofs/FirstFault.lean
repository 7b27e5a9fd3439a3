import PageWatch.Proofs.Parentheses
import PageWatch.Proofs.Places

/-!
# The first fault of tokens

When tokens spell no expression, the error is about the first token that cannot be right. What an
error says is described here without any way of reading the tokens:

* `ParseError.StopsAt`: how many tokens stand in front of the fault;
* `ParseError.Points`: what the position in the error points at.

The invariant is `Place.After`: what the tokens that lead to a place look like. `Place.After.step`
is the step lemma, and `Place.After.run` is about runs. What an error names follows from it, one
lemma for each of the three ways to fail where an operand has to come, and then for a step
(`names_of_step`) and for the end of the tokens (`names_at_end`). Main statement: **the tokens in
front of the fault are the beginning of an expression, and with the fault they are not**
(`ofTokens_names_first_fault`).
-/

namespace PageWatch.Pattern

/-! ## 1. What an error says -/

/-- An operand can end with the token. -/
def Token.endsOperand : Token → Bool
  | .leaf _ | .closing => true
  | .opening | .operator _ => false

/-- An operand can begin with the token. -/
def Token.beginsOperand : Token → Bool
  | .leaf _ | .opening => true
  | .closing | .operator _ => false

/-- The error says that the first `k` tokens are right and that the fault is behind them. An
    operator that lacks its operand is itself the fault if nothing stands before it in its group,
    and is right otherwise. -/
def ParseError.StopsAt (ts : List Token) (k : Nat) : ParseError → Prop
  | .unexpectedClosing i => k = i
  | .missingOperator i => k = i
  | .missingOperand _ i => if i = 0 ∨ ts[i - 1]? = some .opening then k = i else k = i + 1
  | .emptyGroup i => k = i + 1
  | .unclosedParenthesis _ => k = ts.length
  | .emptyLeaf raw => ts[k]? = some (.leaf raw)
  | .empty | .nestingTooDeep _ | .unterminatedQuote _ | .badRegex _ => False

/-- The error is about what it says it is about: an operator; a parenthesis that closes where none
    is open; one that opens and closes at once; an operand directly behind an operand; the last
    parenthesis that is not closed; a leaf without a pattern. -/
def ParseError.Points (ts : List Token) : ParseError → Prop
  | .missingOperand op i => ts[i]? = some (.operator op)
  | .unexpectedClosing i =>
    ts[i]? = some .closing ∧ ∀ j < i, ts[j]? = some .opening → ∃ m < i, Matching ts j m
  | .emptyGroup i => ts[i]? = some .opening ∧ ts[i + 1]? = some .closing
  | .missingOperator i =>
    ∃ j t u, i = j + 1 ∧ ts[j]? = some t ∧ t.endsOperand = true ∧
      ts[j + 1]? = some u ∧ u.beginsOperand = true
  | .unclosedParenthesis i =>
    ts[i]? = some .opening ∧ (∀ m, ¬ Matching ts i m) ∧
      ∀ j, i < j → ts[j]? = some .opening → ∃ m, Matching ts j m
  | .emptyLeaf raw => Leaf.ofRaw raw = .error (.emptyLeaf raw)
  | .empty | .nestingTooDeep _ | .unterminatedQuote _ | .badRegex _ => False

/-- In front of the fault stand `k` tokens, and the error points at what it is about. -/
def ParseError.Names (ts : List Token) (k : Nat) (x : ParseError) : Prop :=
  x.StopsAt ts k ∧ x.Points ts

/-- The only fault of a leaf is that it has no pattern. -/
theorem ofRaw_eq_error {raw : String} {x : ParseError} (h : Leaf.ofRaw raw = .error x) :
    x = .emptyLeaf raw := by
  unfold Leaf.ofRaw at h
  dsimp only at h
  split at h
  · exact (Except.error.inj h).symm
  · cases h

/-! ## 2. Groups that are open -/

/-- The groups stand for the parentheses of the tokens that are open, the last one first. -/
def Opened : List Group → List Token → Prop
  | [], ts => Balanced ts
  | g :: groups, ts =>
    ∃ us vs, ts = us ++ .opening :: vs ∧ g.index = us.length ∧ Balanced vs ∧ Opened groups us

section Opened

variable {g : Group} {groups : List Group} {ts us : List Token}

theorem Opened.append (h : Opened groups ts) (hus : Balanced us) : Opened groups (ts ++ us) := by
  cases groups with
  | nil => exact Balanced.append h hus
  | cons g groups =>
    obtain ⟨vs, ws, rfl, hg, hws, ho⟩ := h
    exact ⟨vs, ws ++ us, by simp, hg, hws.append hus, ho⟩

theorem Opened.opening (h : Opened groups ts) (level : Level) :
    Opened (⟨ts.length, level⟩ :: groups) (ts ++ [.opening]) :=
  ⟨ts, [], rfl, rfl, .nil, h⟩

theorem Opened.closing (h : Opened (g :: groups) ts) : Opened groups (ts ++ [.closing]) := by
  obtain ⟨vs, ws, rfl, -, hws, ho⟩ := h
  rw [List.append_assoc]
  exact ho.append (.group hws)

/-- Where no group is open, every parenthesis is closed. -/
theorem Opened.exists_matching (h : Opened [] ts) (j : Nat) (hj : ts[j]? = some .opening) :
    ∃ m < ts.length, Matching ts j m := by
  obtain ⟨m, hm⟩ := Balanced.exists_matching h hj
  exact ⟨m, hm.lt.2, hm⟩

/-- **The innermost group is the last parenthesis that is not closed.** -/
theorem Opened.points (h : Opened (g :: groups) ts) :
    (ParseError.unclosedParenthesis g.index).Points ts := by
  obtain ⟨us, vs, rfl, hg, hvs, -⟩ := h
  rw [hg]
  refine ⟨by simp, not_matching_of_balanced hvs, fun j hj hopening => ?_⟩
  obtain ⟨k, rfl⟩ : ∃ k, j = us.length + 1 + k := Nat.exists_eq_add_of_le hj
  have hk : vs[k]? = some .opening := by
    rw [List.getElem?_append_right (by omega)] at hopening
    have hsub : us.length + 1 + k - us.length = k + 1 := by omega
    rwa [hsub, List.getElem?_cons_succ] at hopening
  obtain ⟨m, hm⟩ := hvs.exists_matching hk
  have hshift := hm.append_left (us ++ [.opening])
  rw [List.length_append, List.length_singleton, List.append_assoc] at hshift
  exact ⟨_, hshift⟩

end Opened

/-! ## 3. What has been read -/

/-- What the tokens look like that lead to a place. -/
def Place.After (ts : List Token) : Place → Prop
  | .awaits .nothing groups _ => groups = [] ∧ ts = []
  | .awaits (.opening i) groups _ =>
    Opened groups ts ∧ groups.head?.map Group.index = some i ∧
      ∃ us, ts = us ++ [.opening] ∧ i = us.length
  | .awaits (.operator op i) groups _ =>
    Opened groups ts ∧ ∃ us t, ts = us ++ [t, .operator op] ∧ t.endsOperand = true ∧
      i = us.length + 1
  | .behind groups _ =>
    Opened groups ts ∧ ∃ us t, ts = us ++ [t] ∧ t.endsOperand = true

/-- The groups that are open at a place. -/
def Place.groups : Place → List Group
  | .awaits _ groups _ => groups
  | .behind groups _ => groups

section After

variable {max : Nat} {p q : Place} {t : Token} {ts us : List Token}

theorem Place.After.opened (h : p.After ts) : Opened p.groups ts := by
  match p with
  | .awaits .nothing groups level =>
    obtain ⟨rfl, rfl⟩ := h
    exact Balanced.nil
  | .awaits (.opening i) groups level => exact h.1
  | .awaits (.operator op i) groups level => exact h.1
  | .behind groups level => exact h.1

theorem after_start : Place.start.After [] := ⟨rfl, rfl⟩

/-- **A step keeps what has been read in view.** -/
theorem Place.After.step (h : p.After ts) (hq : p.step max ts.length t = .ok q) :
    q.After (ts ++ [t]) := by
  have ho := h.opened
  cases p with
  | awaits before groups level =>
    cases t with
    | opening =>
      rw [Place.step] at hq
      split at hq
      · cases hq
      · cases hq
        exact ⟨ho.opening level, rfl, ts, rfl, rfl⟩
    | closing => cases hq
    | operator op => cases hq
    | leaf raw =>
      obtain ⟨l, -, rfl⟩ := map_eq_ok_iff.mp hq
      exact ⟨ho.append (.leaf raw), ts, _, rfl, rfl⟩
  | behind groups level =>
    cases t with
    | opening => cases hq
    | leaf raw => cases hq
    | closing =>
      cases groups with
      | nil => cases hq
      | cons g groups =>
        cases hq
        exact ⟨ho.closing, ts, _, rfl, rfl⟩
    | operator op =>
      obtain ⟨-, us, t, rfl, ht⟩ := h
      have hlen : (us ++ [t]).length = us.length + 1 := by simp
      have hafter : Opened groups (us ++ [t] ++ [.operator op]) := ho.append (.operator op)
      cases op with
      | and =>
        cases hq
        exact ⟨hafter, us, t, List.append_assoc .., ht, hlen⟩
      | or =>
        cases hq
        exact ⟨hafter, us, t, List.append_assoc .., ht, hlen⟩

/-- **The same along a run**, by induction on its tokens. -/
theorem Place.After.run (h : p.After ts) (hq : p.run max ts.length us = .ok q) :
    q.After (ts ++ us) := by
  induction us generalizing p ts with
  | nil =>
    cases hq
    rwa [List.append_nil]
  | cons t us ih =>
    rw [Place.run] at hq
    split at hq
    · cases hq
    · next p' hp =>
      have hstep := h.step hp
      have hlen : (ts ++ [t]).length = ts.length + 1 := by simp
      rw [← hlen] at hq
      rw [List.append_cons]
      exact ih hstep hq

end After

/-! ## 4. What an error names -/

section Names

variable {max : Nat} {p : Place} {before : Before} {groups : List Group} {level : Level} {t : Token}
  {ts us : List Token} {x : ParseError}

/-- Behind an operand an operator is right. The fault is what stands where its operand has to
    come. -/
theorem names_missingOperand (us : List Token) (op : Operator) (ht : t.endsOperand = true)
    (rest : List Token) :
    (ParseError.missingOperand op (us.length + 1)).Names (us ++ [t, .operator op] ++ rest)
      (us ++ [t, .operator op]).length := by
  have hne : some t ≠ some .opening := by
    rintro ⟨⟩
    cases ht
  have hbefore : (us ++ [t, .operator op] ++ rest)[us.length + 1 - 1]? = some t := by simp
  refine ⟨?_, by simp [ParseError.Points]⟩
  rw [ParseError.StopsAt, hbefore, if_neg]
  · exact List.length_append
  · rintro (h | h)
    · cases h
    · exact hne h

/-- At the beginning of a group an operator is the fault itself. -/
theorem names_operator_first (op : Operator) (rest : List Token)
    (h : us.length = 0 ∨ us[us.length - 1]? = some .opening) :
    (ParseError.missingOperand op us.length).Names (us ++ .operator op :: rest) us.length := by
  refine ⟨?_, by simp [ParseError.Points]⟩
  rw [ParseError.StopsAt, if_pos]
  rcases h with h | h
  · exact .inl h
  · have hlt : us.length - 1 < us.length := (List.getElem?_eq_some_iff.mp h).1
    rw [List.getElem?_append_left hlt]
    exact .inr h

theorem names_faultAtOperator (h : (Place.awaits before groups level).After us) (op : Operator)
    (rest : List Token) :
    (before.faultAtOperator op us.length).Names (us ++ .operator op :: rest) us.length := by
  cases before with
  | nothing =>
    obtain ⟨-, rfl⟩ := h
    exact names_operator_first op rest (.inl rfl)
  | opening i =>
    obtain ⟨-, -, vs, rfl, -⟩ := h
    exact names_operator_first op rest (.inr (by simp))
  | operator op' i =>
    obtain ⟨-, vs, t, rfl, ht, rfl⟩ := h
    exact names_missingOperand vs op' ht (.operator op :: rest)

theorem names_faultAtClosing (h : (Place.awaits before groups level).After us)
    (rest : List Token) :
    (before.faultAtClosing us.length).Names (us ++ .closing :: rest) us.length := by
  cases before with
  | nothing =>
    obtain ⟨-, rfl⟩ := h
    exact ⟨rfl, rfl, fun j hj => absurd hj (Nat.not_lt_zero j)⟩
  | opening i =>
    obtain ⟨-, -, vs, rfl, rfl⟩ := h
    rw [Before.faultAtClosing]
    exact ⟨List.length_append, by simp [ParseError.Points]⟩
  | operator op i =>
    obtain ⟨-, vs, t, rfl, ht, rfl⟩ := h
    exact names_missingOperand vs op ht (.closing :: rest)

/-- Where nothing at all has been read, the error has nothing to name. -/
theorem names_faultAtEnd (h : (Place.awaits before groups level).After ts) :
    before.faultAtEnd = .empty ∧ ts = [] ∨ before.faultAtEnd.Names ts ts.length := by
  cases before with
  | nothing => exact .inl ⟨rfl, h.2⟩
  | opening i =>
    obtain ⟨ho, hi, -⟩ := h
    cases groups with
    | nil => cases hi
    | cons g groups =>
      cases hi
      exact .inr ⟨rfl, ho.points⟩
  | operator op i =>
    obtain ⟨-, us, t, rfl, ht, rfl⟩ := h
    have hnames := names_missingOperand us op ht []
    rw [List.append_nil] at hnames
    exact .inr hnames

/-- Behind an operand, a token with which an operand begins is the fault. -/
theorem names_missingOperator (h : (Place.behind groups level).After us)
    (ht : t.beginsOperand = true) (rest : List Token) :
    (ParseError.missingOperator us.length).Names (us ++ t :: rest) us.length := by
  obtain ⟨-, vs, u, rfl, hu⟩ := h
  have hlen : (vs ++ [u]).length = vs.length + 1 := by simp
  exact ⟨rfl, vs.length, u, t, hlen, by simp, hu, by simp, ht⟩

/-- Behind an operand and with no group open, a parenthesis that closes is the fault. -/
theorem names_unexpectedClosing (h : (Place.behind [] level).After us) (rest : List Token) :
    (ParseError.unexpectedClosing us.length).Names (us ++ .closing :: rest) us.length := by
  refine ⟨rfl, by simp, fun j hj hopening => ?_⟩
  rw [List.getElem?_append_left hj] at hopening
  obtain ⟨m, hm, hmatching⟩ := h.1.exists_matching j hopening
  exact ⟨m, hm, hmatching.append_right _⟩

/-- **A token that cannot be read is the fault**, whatever stands behind it. -/
theorem names_of_step (h : p.After us) (hx : p.step max us.length t = .error x)
    (hdeep : ∀ n, x ≠ .nestingTooDeep n) (rest : List Token) :
    x.Names (us ++ t :: rest) us.length := by
  cases p with
  | awaits before groups level =>
    cases t with
    | opening =>
      rw [Place.step] at hx
      split at hx
      · cases hx
        exact absurd rfl (hdeep max)
      · cases hx
    | closing =>
      cases hx
      exact names_faultAtClosing h rest
    | operator op =>
      cases hx
      exact names_faultAtOperator h op rest
    | leaf raw =>
      have hraw := map_eq_error_iff.mp hx
      obtain rfl := ofRaw_eq_error hraw
      exact ⟨by simp [ParseError.StopsAt], hraw⟩
  | behind groups level =>
    cases t with
    | opening =>
      cases hx
      exact names_missingOperator h rfl rest
    | leaf raw =>
      cases hx
      exact names_missingOperator h rfl rest
    | operator op => cases op <;> cases hx
    | closing =>
      cases groups with
      | nil =>
        cases hx
        exact names_unexpectedClosing h rest
      | cons g groups => cases hx

/-- **Tokens that end too early are right as far as they go.** -/
theorem names_at_end (h : p.After ts) (hx : p.read max ts.length [] = .error x) :
    x = .empty ∧ ts = [] ∨ x.Names ts ts.length := by
  cases p with
  | awaits before groups level =>
    rw [Place.read, readOperand] at hx
    cases hx
    exact names_faultAtEnd h
  | behind groups level =>
    rw [Place.read] at hx
    cases groups with
    | nil =>
      rw [readOperator] at hx
      cases hx
    | cons g groups =>
      rw [readOperator] at hx
      cases hx
      exact .inr ⟨rfl, h.1.points⟩

end Names

/-! ## 5. The first fault -/

section FirstFault

variable {max : Nat} {q : Place} {t : Token} {ts us : List Token} {x : ParseError}

/-- Behind tokens that can be read, the answer is that of reading the rest. -/
theorem ofTokens_append_of_run (hq : Place.start.run max 0 ts = .ok q) (us : List Token) :
    Expression.ofTokens max (ts ++ us) = (q.read max ts.length us).map Expression.rooted := by
  rw [ofTokens_eq, read_append hq, Nat.zero_add]

/-- A token that cannot be read decides the answer, **whatever stands behind it**. -/
theorem ofTokens_of_step (hq : Place.start.run max 0 us = .ok q)
    (hx : q.step max us.length t = .error x) (hts : ts.take (us.length + 1) = us ++ [t]) :
    Expression.ofTokens max ts = .error x := by
  rw [← List.take_append_drop (us.length + 1) ts, hts, List.append_assoc, List.singleton_append,
    ofTokens_append_of_run hq, read_cons_of_error hx, map_error]

/-- An error on tokens that can all be read is about their end. -/
theorem names_of_run (hq : Place.start.run max 0 ts = .ok q)
    (h : Expression.ofTokens max ts = .error x) : x = .empty ∧ ts = [] ∨ x.Names ts ts.length := by
  have hread := ofTokens_append_of_run hq []
  rw [List.append_nil, h] at hread
  exact names_at_end (after_start.run hq) (map_eq_error_iff.mp hread.symm)

/-- Only of no tokens is it said that they are empty. -/
theorem ofTokens_eq_empty_iff : Expression.ofTokens max ts = .error .empty ↔ ts = [] := by
  constructor
  · intro h
    obtain ⟨q, hq⟩ | ⟨us, t, vs, q, x, rfl, hq, hx⟩ := run_cases max 0 Place.start ts
    · rcases names_of_run hq h with ⟨-, hts⟩ | hnames
      · exact hts
      · exact hnames.1.elim
    · rw [Nat.zero_add] at hx
      have hanswer := ofTokens_append_of_run hq (t :: vs)
      rw [h, read_cons_of_error hx, map_error] at hanswer
      obtain rfl := Except.error.inj hanswer
      have hnames := names_of_step (after_start.run hq) hx nofun vs
      exact hnames.1.elim
  · rintro rfl
    rfl

end FirstFault

/-- **An error names the first fault.** It points at what it is about; the tokens in front of the
    fault are the beginning of an expression; and unless the fault is that they end, all tokens
    that begin with the same ones and the fault itself get the same error. That the tokens are
    empty is said of no others. -/
theorem ofTokens_names_first_fault (max : Nat) (ts : List Token) :
    (Expression.ofTokens max ts = .error .empty ↔ ts = []) ∧
      ∀ x, Expression.ofTokens max ts = .error x → x ≠ .empty → (∀ n, x ≠ .nestingTooDeep n) →
        ∃ k ≤ ts.length, x.Names ts k ∧ Viable max (ts.take k) ∧
          (k < ts.length →
            ∀ us, us.take (k + 1) = ts.take (k + 1) → Expression.ofTokens max us = .error x) := by
  refine ⟨ofTokens_eq_empty_iff, fun x h hne hdeep => ?_⟩
  obtain ⟨q, hq⟩ | ⟨us, t, vs, q, y, rfl, hq, hy⟩ := run_cases max 0 Place.start ts
  · -- All tokens can be read: the fault is that they end.
    have hnames : x.Names ts ts.length :=
      (names_of_run hq h).resolve_left fun hempty => hne hempty.1
    have hviable : Viable max (ts.take ts.length) := by
      rw [List.take_length]
      exact viable_of_run hq
    exact ⟨ts.length, Nat.le_refl _, hnames, hviable, fun hlt => absurd hlt (Nat.lt_irrefl _)⟩
  · rw [Nat.zero_add] at hy
    have htake : (us ++ t :: vs).take (us.length + 1) = us ++ [t] := by
      rw [List.append_cons]
      exact List.take_left' (by simp)
    obtain rfl : y = x := Except.error.inj ((ofTokens_of_step hq hy htake).symm.trans h)
    have hnames := names_of_step (after_start.run hq) hy hdeep vs
    have hviable : Viable max ((us ++ t :: vs).take us.length) := by
      rw [List.take_left]
      exact viable_of_run hq
    exact ⟨us.length, by simp, hnames, hviable,
      fun _ ws hws => ofTokens_of_step hq hy (hws.trans htake)⟩

/-- In `( a OR ) b` the operator at 2 lacks its operand, and the fault is the parenthesis behind
    it. -/
theorem ofTokens_names_first_fault_operator :
    Expression.ofTokens 1 [.opening, .leaf "a", .operator .or, .closing, .leaf "b"] =
        .error (.missingOperand .or 2) ∧
      (ParseError.missingOperand .or 2).Names
        [.opening, .leaf "a", .operator .or, .closing, .leaf "b"] 3 ∧
      Viable 1 [.opening, .leaf "a", .operator .or] ∧
      ∀ us : List Token, us.take 4 = [.opening, .leaf "a", .operator .or, .closing] →
        Expression.ofTokens 1 us = .error (.missingOperand .or 2) := by
  have h : Expression.ofTokens 1 [.opening, .leaf "a", .operator .or, .closing, .leaf "b"] =
      .error (.missingOperand .or 2) := rfl
  obtain ⟨k, -, hnames, hviable, hsame⟩ := (ofTokens_names_first_fault 1 _).2 _ h nofun nofun
  obtain rfl : k = 3 := hnames.1
  exact ⟨h, hnames, hviable, hsame (by decide)⟩

end PageWatch.Pattern
