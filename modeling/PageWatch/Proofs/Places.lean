import PageWatch.Pattern.Parse
import PageWatch.Proofs.Answer

/-!
# Reading token by token

`readOperand` and `readOperator` take turns on the tokens. Here both are one machine that reads one
token at a time:

* `Place`: where reading stands between two tokens, which is one of the two readers with all it
  carries;
* `Place.step`: what one token does, and `Place.run`: what several do, as far as they go;
* `read_cons_of_ok`, `read_cons_of_error` and `read_append`: **reading is stepping**. So what a
  token does depends on the tokens in front of it and on nothing behind it;
* `viable_of_run`: wherever reading can stand, it can be brought to a good end.
-/

namespace PageWatch.Pattern

/-! ## 1. Places and steps -/

/-- Where reading stands: an operand has to come, or one has just been read. -/
inductive Place where
  | awaits (before : Before) (groups : List Group) (level : Level)
  | behind (groups : List Group) (level : Level)

namespace Place

/-- In front of the first token. -/
def start : Place := .awaits .nothing [] .start

/-- Reads the tokens from here on; `i` is the position of the first of them. -/
def read (max i : Nat) (ts : List Token) : Place → Except ParseError Expression
  | awaits before groups level => readOperand max before groups level i ts
  | behind groups level => readOperator max groups level i ts

/-- Reads one token; `i` is its position. -/
def step (max i : Nat) (t : Token) : Place → Except ParseError Place
  | awaits before groups level =>
    match t with
    | .opening =>
      if max ≤ groups.length then .error (.nestingTooDeep max)
      else .ok (awaits (.opening i) (⟨i, level⟩ :: groups) .start)
    | .closing => .error (before.faultAtClosing i)
    | .operator op => .error (before.faultAtOperator op i)
    | .leaf raw => (Leaf.ofRaw raw).map fun l => behind groups (level.push (.leaf l))
  | behind groups level =>
    match t with
    | .operator .and => .ok (awaits (.operator .and i) groups level)
    | .operator .or => .ok (awaits (.operator .or i) groups level.endChain)
    | .closing =>
      match groups with
      | [] => .error (.unexpectedClosing i)
      | g :: groups => .ok (behind groups (g.outer.push level.finish))
    | .opening => .error (.missingOperator i)
    | .leaf _ => .error (.missingOperator i)

/-- Reads tokens as far as they can be read; `i` is the position of the first of them. -/
def run (max i : Nat) (p : Place) : List Token → Except ParseError Place
  | [] => .ok p
  | t :: ts =>
    match p.step max i t with
    | .error x => .error x
    | .ok q => q.run max (i + 1) ts

end Place

section Reading

variable {max i : Nat} {p q : Place} {t : Token} {ts us : List Token} {x : ParseError}

/-- **Reading a token and the rest is a step and reading the rest.** -/
theorem read_cons (max i : Nat) (p : Place) (t : Token) (ts : List Token) :
    p.read max i (t :: ts) =
      match p.step max i t with
      | .error x => .error x
      | .ok q => q.read max (i + 1) ts := by
  cases p with
  | awaits before groups level =>
    cases t with
    | opening =>
      simp only [Place.read, Place.step, readOperand]
      split <;> rfl
    | closing => simp only [Place.read, Place.step, readOperand]
    | operator op => simp only [Place.read, Place.step, readOperand]
    | leaf raw =>
      simp only [Place.read, Place.step, readOperand]
      cases Leaf.ofRaw raw <;> rfl
  | behind groups level =>
    cases t with
    | opening => simp only [Place.read, Place.step, readOperator]
    | closing => cases groups <;> simp only [Place.read, Place.step, readOperator]
    | operator op => cases op <;> simp only [Place.read, Place.step, readOperator]
    | leaf raw => simp only [Place.read, Place.step, readOperator]

theorem read_cons_of_ok (h : p.step max i t = .ok q) :
    p.read max i (t :: ts) = q.read max (i + 1) ts := by
  rw [read_cons, h]

theorem read_cons_of_error (h : p.step max i t = .error x) :
    p.read max i (t :: ts) = .error x := by
  rw [read_cons, h]

theorem run_cons_of_ok (h : p.step max i t = .ok q) :
    p.run max i (t :: ts) = q.run max (i + 1) ts := by
  rw [Place.run, h]

/-- Tokens that can be read lead to a place from which the rest is read. -/
theorem read_append (h : p.run max i ts = .ok q) :
    p.read max i (ts ++ us) = q.read max (i + ts.length) us := by
  induction ts generalizing p i with
  | nil =>
    cases h
    rfl
  | cons t ts ih =>
    rw [Place.run] at h
    split at h
    · cases h
    · next p' hp =>
      rw [List.cons_append, read_cons_of_ok hp, ih h, List.length_cons, Nat.add_right_comm,
        Nat.add_assoc]

/-- **Tokens can be read to their end, or there is a first one that cannot.** -/
theorem run_cases (max i : Nat) (p : Place) (ts : List Token) :
    (∃ q, p.run max i ts = .ok q) ∨
      ∃ us t vs q x, ts = us ++ t :: vs ∧ p.run max i us = .ok q ∧
        q.step max (i + us.length) t = .error x := by
  induction ts generalizing p i with
  | nil => exact .inl ⟨p, rfl⟩
  | cons t ts ih =>
    cases hstep : p.step max i t with
    | error x => exact .inr ⟨[], t, ts, p, x, rfl, rfl, hstep⟩
    | ok p' =>
      obtain ⟨q, hq⟩ | ⟨us, t', vs, q, x, rfl, hq, hx⟩ := ih (i + 1) p'
      · exact .inl ⟨q, by rw [run_cons_of_ok hstep, hq]⟩
      · refine .inr ⟨t :: us, t', vs, q, x, rfl, by rw [run_cons_of_ok hstep, hq], ?_⟩
        rwa [List.length_cons, Nat.add_comm us.length 1, ← Nat.add_assoc]

end Reading

/-! ## 2. Tokens that can be completed -/

/-- Some further tokens make an expression of the tokens. -/
def Viable (max : Nat) (ts : List Token) : Prop :=
  ∃ us e, Expression.ofTokens max (ts ++ us) = .ok e

/-- Behind an operand it is enough to close the open groups. -/
theorem exists_readOperator (max i : Nat) (groups : List Group) (level : Level) :
    ∃ e, readOperator max groups level i (List.replicate groups.length .closing) = .ok e := by
  induction groups generalizing level i with
  | nil => exact ⟨level.finish, by rw [List.length_nil, List.replicate_zero, readOperator]⟩
  | cons g groups ih =>
    obtain ⟨e, he⟩ := ih (i + 1) (g.outer.push level.finish)
    exact ⟨e, by rw [List.length_cons, List.replicate_succ, readOperator, he]⟩

/-- The same with one operand in front, where an operand has to come. -/
theorem exists_read (max i : Nat) (p : Place) : ∃ us e, p.read max i us = .ok e := by
  cases p with
  | behind groups level =>
    obtain ⟨e, he⟩ := exists_readOperator max i groups level
    exact ⟨_, e, he⟩
  | awaits before groups level =>
    have hleaf : Leaf.ofRaw "a" = .ok (.fresh .string "a") := rfl
    obtain ⟨e, he⟩ := exists_readOperator max (i + 1) groups
      (level.push (.leaf (.fresh .string "a")))
    refine ⟨.leaf "a" :: List.replicate groups.length .closing, e, ?_⟩
    rw [Place.read, readOperand, hleaf]
    exact he

theorem ofTokens_eq (max : Nat) (ts : List Token) :
    Expression.ofTokens max ts = (Place.start.read max 0 ts).map Expression.rooted := rfl

/-- **Tokens that can be read can be completed.** -/
theorem viable_of_run {max : Nat} {ts : List Token} {p : Place}
    (h : Place.start.run max 0 ts = .ok p) : Viable max ts := by
  obtain ⟨us, e, he⟩ := exists_read max (0 + ts.length) p
  exact ⟨us, e.rooted, by rw [ofTokens_eq, read_append h, he, map_ok]⟩

end PageWatch.Pattern
