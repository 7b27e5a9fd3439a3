import PageWatch.Pattern.Parse
import PageWatch.Proofs.Answer

/-!
# The grammar of search expressions

The grammar as a relation between tokens and trees, apart from any way of reading them:

* `Spells.Primary`: one leaf, or a chain of `OR` in parentheses;
* `Spells.Chain .and`: primaries joined by `AND`; `Spells.Chain .or`: chains of `AND` joined by
  `OR`. One operand stands for itself, several are the operands of ONE compound;
* every relation carries a bound `d` on how deep the parentheses are nested.

Main statement: **`Expression.ofTokens` accepts exactly what the grammar spells**, and tokens
spell at most one tree (`ofTokens_eq_ok_iff`). Both halves follow the machine of `readOperand` and
`readOperator`: `Reads` says what a derivation makes of the level that is being read, `Awaits`,
`Behind` and `Stacked` say what the tokens already read spell.
-/

namespace PageWatch.Pattern

/-! ## 1. The grammar -/

namespace Spells

mutual

/-- `Primary := '(' Chain .or ')' | leaf`. -/
inductive Primary : Nat → List Token → Expression → Prop
  | leaf {d : Nat} {raw : String} {l : Leaf} (h : Leaf.ofRaw raw = .ok l) :
      Primary d [.leaf raw] (.leaf l)
  | group {d : Nat} {ts : List Token} {e : Expression} (h : Chain .or d ts e) :
      Primary (d + 1) (.opening :: ts ++ [.closing]) e

/-- What an operator joins: `AND` joins primaries, `OR` joins chains of `AND`. -/
inductive Link : Operator → Nat → List Token → Expression → Prop
  | and {d : Nat} {ts : List Token} {e : Expression} (h : Primary d ts e) : Link .and d ts e
  | or {d : Nat} {ts : List Token} {e : Expression} (h : Chain .and d ts e) : Link .or d ts e

/-- Links with the operator between them, and the trees they spell in order. -/
inductive Links : Operator → Nat → List Token → List Expression → Prop
  | one {op : Operator} {d : Nat} {ts : List Token} {e : Expression} (h : Link op d ts e) :
      Links op d ts [e]
  | more {op : Operator} {d : Nat} {ts us : List Token} {e : Expression} {es : List Expression}
      (h : Link op d ts e) (hs : Links op d us es) :
      Links op d (ts ++ .operator op :: us) (e :: es)

/-- `Chain op := Link op (op Link op)*`: a lone operand stands for itself, several are the
    operands of one compound. -/
inductive Chain : Operator → Nat → List Token → Expression → Prop
  | single {op : Operator} {d : Nat} {ts : List Token} {e : Expression} (h : Link op d ts e) :
      Chain op d ts e
  | several {op : Operator} {d : Nat} {ts : List Token} {es : List Expression}
      (h : Links op d ts es) (hes : 2 ≤ es.length) : Chain op d ts (.compound op es)

end

/-! What is nested at most `d` deep is nested at most `d'` deep for every `d'` from `d` on. -/

mutual

theorem Primary.mono {d d' : Nat} {ts : List Token} {e : Expression} (hd : d ≤ d') :
    Primary d ts e → Primary d' ts e
  | .leaf h => .leaf h
  | .group (d := k) h => by
    obtain ⟨j, rfl⟩ := Nat.exists_eq_add_of_le hd
    rw [Nat.add_right_comm]
    exact .group (h.mono (Nat.le_add_right k j))

theorem Link.mono {op : Operator} {d d' : Nat} {ts : List Token} {e : Expression} (hd : d ≤ d') :
    Link op d ts e → Link op d' ts e
  | .and h => .and (h.mono hd)
  | .or h => .or (h.mono hd)

theorem Links.mono {op : Operator} {d d' : Nat} {ts : List Token} {es : List Expression}
    (hd : d ≤ d') : Links op d ts es → Links op d' ts es
  | .one h => .one (h.mono hd)
  | .more h hs => .more (h.mono hd) (hs.mono hd)

theorem Chain.mono {op : Operator} {d d' : Nat} {ts : List Token} {e : Expression} (hd : d ≤ d') :
    Chain op d ts e → Chain op d' ts e
  | .single h => .single (h.mono hd)
  | .several h hes => .several (h.mono hd) hes

end

theorem Links.append {op : Operator} {d : Nat} {ts us : List Token} {es fs : List Expression} :
    Links op d ts es → Links op d us fs → Links op d (ts ++ .operator op :: us) (es ++ fs)
  | .one h, hs => .more h hs
  | .more h hs, hs' => by
    rw [List.append_assoc, List.cons_append]
    exact .more h (hs.append hs')

/-- Links make a chain, whose tree is the one `Expression.join` builds. -/
theorem Links.chain {op : Operator} {d : Nat} {ts : List Token} {es : List Expression}
    (h : Links op d ts es) : Chain op d ts (Expression.join op es) := by
  cases h with
  | one h => exact .single h
  | more h hs =>
    cases hs with
    | one h' => exact .several (.more h (.one h')) (Nat.le_refl 2)
    | more h' hs' => exact .several (.more h (.more h' hs')) (by simp)

end Spells

theorem Expression.join_of_two_le {op : Operator} {es : List Expression} (h : 2 ≤ es.length) :
    Expression.join op es = .compound op es := by
  match es with
  | _ :: _ :: _ => rfl

open Spells

/-! ## 2. What is spelled is read -/

/-- Reading `ts` where an operand has to come, inside `n` open groups, leads behind an operand and
    turns the level from `level` into `level'`, whatever stands before and whatever follows. -/
def Reads (max n : Nat) (level : Level) (ts : List Token) (level' : Level) : Prop :=
  ∀ (groups : List Group), groups.length = n →
    ∀ (before : Before) (i : Nat) (rest : List Token),
      readOperand max before groups level i (ts ++ rest) =
        readOperator max groups level' (i + ts.length) rest

section Reading

variable {max n : Nat} {level level' level'' : Level} {ts us : List Token}

theorem Reads.leaf {raw : String} {l : Leaf} (h : Leaf.ofRaw raw = .ok l) :
    Reads max n level [.leaf raw] (level.push (.leaf l)) := by
  intro groups _ before i rest
  simp [readOperand, h]

theorem Reads.and (h : Reads max n level ts level') (h' : Reads max n level' us level'') :
    Reads max n level (ts ++ .operator .and :: us) level'' := by
  intro groups hn before i rest
  have hlen : i + (ts ++ .operator .and :: us).length = i + ts.length + 1 + us.length := by
    simp only [List.length_append, List.length_cons]
    omega
  rw [List.append_assoc, h groups hn, List.cons_append, readOperator, h' groups hn, hlen]

theorem Reads.or (h : Reads max n level ts level') (h' : Reads max n level'.endChain us level'') :
    Reads max n level (ts ++ .operator .or :: us) level'' := by
  intro groups hn before i rest
  have hlen : i + (ts ++ .operator .or :: us).length = i + ts.length + 1 + us.length := by
    simp only [List.length_append, List.length_cons]
    omega
  rw [List.append_assoc, h groups hn, List.cons_append, readOperator, h' groups hn, hlen]

/-- A group is one more operand of the level around it, if the rules allow one more. -/
theorem Reads.group (hmax : n < max) (h : Reads max (n + 1) .start ts level') :
    Reads max n level (.opening :: ts ++ [.closing]) (level.push level'.finish) := by
  intro groups hn before i rest
  have hlen : i + (Token.opening :: ts ++ [Token.closing]).length = i + 1 + ts.length + 1 := by
    simp only [List.length_append, List.length_cons, List.length_nil]
    omega
  rw [List.append_assoc, List.cons_append, readOperand, if_neg (by omega),
    h (⟨i, level⟩ :: groups) (by simp [hn]), List.singleton_append, readOperator, hlen]

end Reading

/-- The operands `es` of a chain of `op` have been added to a level. Those of `AND` join the
    chain that is under way; those of `OR` join the finished ones, once the last of them is. -/
def Level.Gained (op : Operator) (es : List Expression) (level level' : Level) : Prop :=
  match op with
  | .and => level' = ⟨level.ors, es.reverse ++ level.ands⟩
  | .or => level'.endChain = ⟨es.reverse ++ level.ors, []⟩

theorem Level.Gained.endChain {es : List Expression} {level level' : Level}
    (h : level.Gained .and es level') (hands : level.ands = []) :
    level.Gained .or [Expression.join .and es] level' := by
  have h : level' = ⟨level.ors, es.reverse ++ level.ands⟩ := h
  show level'.endChain = _
  rw [h, hands]
  simp [Level.endChain]

theorem Level.Gained.finish {es : List Expression} {level' : Level}
    (h : Level.start.Gained .or es level') : level'.finish = Expression.join .or es := by
  have h : level'.endChain = ⟨es.reverse ++ [], []⟩ := h
  rw [Level.finish, h]
  simp

theorem Level.Gained.cons_and {e : Expression} {es : List Expression}
    {level level' level'' : Level} (h : level.Gained .and [e] level')
    (h' : level'.Gained .and es level'') : level.Gained .and (e :: es) level'' := by
  have h : level' = ⟨level.ors, [e].reverse ++ level.ands⟩ := h
  have h' : level'' = ⟨level'.ors, es.reverse ++ level'.ands⟩ := h'
  show level'' = _
  rw [h', h]
  simp

/-- After an operand and its operator the next operands are gained on top. -/
theorem Level.Gained.cons_or {e : Expression} {es : List Expression} {level level' level'' : Level}
    (h : level.Gained .or [e] level') (h' : level'.endChain.Gained .or es level'') :
    level.Gained .or (e :: es) level'' := by
  have h : level'.endChain = ⟨e :: level.ors, []⟩ := h
  have h' : level''.endChain = ⟨es.reverse ++ level'.endChain.ors, []⟩ := h'
  show level''.endChain = _
  rw [h', h]
  simp

/-! A chain of `OR` begins at a level without a chain under way, hence the hypothesis on `ands`. -/

mutual

theorem Spells.Primary.reads {max n d : Nat} (level : Level) {ts : List Token} {e : Expression}
    (hd : n + d ≤ max) : Primary d ts e → Reads max n level ts (level.push e)
  | .leaf h => .leaf h
  | .group (d := k) h => by
    have hk : n + 1 + k ≤ max := by omega
    obtain ⟨es, level', rfl, hg, hr⟩ := h.reads .start hk fun _ => rfl
    rw [← hg.finish]
    exact .group (by omega) hr

theorem Spells.Link.reads {op : Operator} {max n d : Nat} (level : Level) {ts : List Token}
    {e : Expression} (hd : n + d ≤ max) (hands : op = .or → level.ands = []) :
    Link op d ts e → ∃ level', level.Gained op [e] level' ∧ Reads max n level ts level'
  | .and h => ⟨level.push e, rfl, h.reads level hd⟩
  | .or h => by
    obtain ⟨es, level', rfl, hg, hr⟩ := h.reads level hd (by nofun)
    exact ⟨level', hg.endChain (hands rfl), hr⟩

theorem Spells.Links.reads {op : Operator} {max n d : Nat} (level : Level) {ts : List Token}
    {es : List Expression} (hd : n + d ≤ max) (hands : op = .or → level.ands = []) :
    Links op d ts es → ∃ level', level.Gained op es level' ∧ Reads max n level ts level'
  | .one h => h.reads level hd hands
  | .more h hs => by
    obtain ⟨level', hg, hr⟩ := h.reads level hd hands
    have ih := fun level => hs.reads level hd
    cases op with
    | and =>
      obtain ⟨level'', hg', hr'⟩ := ih level' (by nofun)
      exact ⟨level'', hg.cons_and hg', hr.and hr'⟩
    | or =>
      obtain ⟨level'', hg', hr'⟩ := ih level'.endChain fun _ => rfl
      exact ⟨level'', hg.cons_or hg', hr.or hr'⟩

theorem Spells.Chain.reads {op : Operator} {max n d : Nat} (level : Level) {ts : List Token}
    {e : Expression} (hd : n + d ≤ max) (hands : op = .or → level.ands = []) :
    Chain op d ts e → ∃ es level', Expression.join op es = e ∧ level.Gained op es level' ∧
      Reads max n level ts level'
  | .single h => by
    obtain ⟨level', hg, hr⟩ := h.reads level hd hands
    exact ⟨[e], level', rfl, hg, hr⟩
  | .several h hes => by
    obtain ⟨level', hg, hr⟩ := h.reads level hd hands
    exact ⟨_, level', Expression.join_of_two_le hes, hg, hr⟩

end

/-- **What the grammar spells is read**, and gives the tree it is spelled with. -/
theorem readOperand_of_chain {max : Nat} {ts : List Token} {e : Expression}
    (h : Chain .or max ts e) : readOperand max .nothing [] .start 0 ts = .ok e := by
  have hmax : 0 + max ≤ max := by omega
  obtain ⟨es, level', rfl, hg, hr⟩ := h.reads .start hmax fun _ => rfl
  have hread := hr [] rfl .nothing 0 []
  rw [List.append_nil, readOperator] at hread
  rw [hread, hg.finish]

/-! ## 3. What is read is spelled -/

/-- Operands of a chain of `op`, each with its operator behind it. -/
def OpenChain (op : Operator) (d : Nat) (ts : List Token) (es : List Expression) : Prop :=
  (ts = [] ∧ es = []) ∨ ∃ us, ts = us ++ [.operator op] ∧ Links op d us es

theorem OpenChain.links {op : Operator} {d : Nat} {ts us : List Token} {es : List Expression}
    {e : Expression} (h : OpenChain op d ts es) (he : Link op d us e) :
    Links op d (ts ++ us) (es ++ [e]) := by
  obtain ⟨rfl, rfl⟩ | ⟨vs, rfl, hs⟩ := h
  · exact .one he
  · rw [List.append_assoc]
    exact hs.append (.one he)

/-- What the tokens `ts` read so far at one level spell, where an operand has to come. -/
def Level.Awaits (d : Nat) (level : Level) (ts : List Token) : Prop :=
  ∃ us vs, ts = us ++ vs ∧ OpenChain .or d us level.ors.reverse ∧
    OpenChain .and d vs level.ands.reverse

/-- What the tokens `ts` read so far at one level spell, behind an operand. -/
def Level.Behind (d : Nat) (level : Level) (ts : List Token) : Prop :=
  ∃ us vs, ts = us ++ vs ∧ OpenChain .or d us level.ors.reverse ∧
    Links .and d vs level.ands.reverse

section Levels

variable {d : Nat} {level : Level} {ts us : List Token} {e : Expression}

theorem Level.awaits_start : Level.start.Awaits d [] :=
  ⟨[], [], rfl, .inl ⟨rfl, rfl⟩, .inl ⟨rfl, rfl⟩⟩

theorem Level.Awaits.push (h : level.Awaits d ts) (he : Primary d us e) :
    (level.push e).Behind d (ts ++ us) := by
  obtain ⟨vs, ws, rfl, hor, hand⟩ := h
  refine ⟨vs, ws ++ us, List.append_assoc .., hor, ?_⟩
  rw [Level.push, List.reverse_cons]
  exact hand.links (.and he)

theorem Level.Behind.and (h : level.Behind d ts) : level.Awaits d (ts ++ [.operator .and]) := by
  obtain ⟨us, vs, rfl, hor, hand⟩ := h
  exact ⟨us, vs ++ [.operator .and], List.append_assoc .., hor, .inr ⟨vs, rfl, hand⟩⟩

/-- The operands of `OR` with the chain that is under way as the last one. -/
theorem Level.Behind.links (h : level.Behind d ts) :
    Links .or d ts level.endChain.ors.reverse := by
  obtain ⟨us, vs, rfl, hor, hand⟩ := h
  rw [Level.endChain, List.reverse_cons]
  exact hor.links (.or hand.chain)

theorem Level.Behind.or (h : level.Behind d ts) :
    level.endChain.Awaits d (ts ++ [.operator .or]) :=
  ⟨ts ++ [.operator .or], [], (List.append_nil _).symm, .inr ⟨ts, rfl, h.links⟩, .inl ⟨rfl, rfl⟩⟩

theorem Level.Behind.finish (h : level.Behind d ts) : Chain .or d ts level.finish :=
  h.links.chain

end Levels

/-- What the tokens `ts` in front of the innermost level spell: the groups that are open, each
    with the level around it. -/
def Stacked (max : Nat) : List Group → List Token → Prop
  | [], ts => ts = []
  | g :: groups, ts => groups.length < max ∧ ∃ us vs, ts = us ++ vs ++ [.opening] ∧
      Stacked max groups us ∧ g.outer.Awaits (max - groups.length) vs

/-- Each of the two readers hands the rest to the other one, one token shorter, so one induction
    on the tokens carries both. -/
theorem chain_of_read {max : Nat} (rest : List Token) :
    (∀ before groups level i us vs e, Stacked max groups us →
      level.Awaits (max - groups.length) vs →
      readOperand max before groups level i rest = .ok e → Chain .or max (us ++ vs ++ rest) e) ∧
    (∀ groups level i us vs e, Stacked max groups us →
      level.Behind (max - groups.length) vs →
      readOperator max groups level i rest = .ok e → Chain .or max (us ++ vs ++ rest) e) := by
  induction rest with
  | nil =>
    refine ⟨?_, ?_⟩
    · intro before groups level i us vs e _ _ h
      simp [readOperand] at h
    · intro groups level i us vs e hs hb h
      cases groups with
      | nil =>
        simp only [readOperator, Except.ok.injEq] at h
        have hs : us = [] := hs
        subst hs h
        simpa using hb.finish
      | cons g groups => simp [readOperator] at h
  | cons t rest ih =>
    obtain ⟨ihOperand, ihOperator⟩ := ih
    refine ⟨?_, ?_⟩
    · intro before groups level i us vs e hs ha h
      cases t with
      | opening =>
        rw [readOperand] at h
        split at h
        · simp at h
        · next hmax =>
          have hmax : groups.length < max := Nat.not_le.1 hmax
          have hstack : Stacked max (⟨i, level⟩ :: groups) (us ++ vs ++ [.opening]) :=
            ⟨hmax, us, vs, rfl, hs, ha⟩
          simpa using ihOperand _ _ _ _ _ [] _ hstack Level.awaits_start h
      | closing => simp [readOperand] at h
      | operator op => simp [readOperand] at h
      | leaf raw =>
        rw [readOperand] at h
        split at h
        · simp at h
        · next l hl => simpa using ihOperator _ _ _ _ _ _ hs (ha.push (.leaf hl)) h
    · intro groups level i us vs e hs hb h
      cases t with
      | opening => simp [readOperator] at h
      | closing =>
        cases groups with
        | nil => simp [readOperator] at h
        | cons g groups =>
          obtain ⟨hmax, us', vs', rfl, hs', ha⟩ := hs
          rw [readOperator] at h
          have hgroup :
              Primary (max - groups.length) (.opening :: vs ++ [.closing]) level.finish := by
            have hsucc : max - groups.length = max - (groups.length + 1) + 1 := by omega
            rw [hsucc]
            exact .group hb.finish
          simpa using ihOperator _ _ _ _ _ _ hs' (ha.push hgroup) h
      | operator op =>
        cases op with
        | and =>
          rw [readOperator] at h
          simpa using ihOperand _ _ _ _ _ _ _ hs hb.and h
        | or =>
          rw [readOperator] at h
          simpa using ihOperand _ _ _ _ _ _ _ hs hb.or h
      | leaf raw => simp [readOperator] at h

/-- **What is read is spelled**, nested no deeper than the rules allow. -/
theorem chain_of_readOperand {max : Nat} {ts : List Token} {e : Expression}
    (h : readOperand max .nothing [] .start 0 ts = .ok e) : Chain .or max ts e := by
  have hstart : Level.start.Awaits (max - 0) [] := Level.awaits_start
  simpa using (chain_of_read ts).1 .nothing [] .start 0 [] [] e rfl hstart h

theorem readOperand_eq_ok_iff {max : Nat} {ts : List Token} {e : Expression} :
    readOperand max .nothing [] .start 0 ts = .ok e ↔ Chain .or max ts e :=
  ⟨chain_of_readOperand, readOperand_of_chain⟩

/-- Tokens spell at most one tree, however deep its derivations are nested. -/
theorem Spells.Chain.unique {d d' : Nat} {ts : List Token} {e e' : Expression}
    (h : Chain .or d ts e) (h' : Chain .or d' ts e') : e = e' := by
  have hread := readOperand_of_chain (h.mono (Nat.le_max_left d d'))
  have hread' := readOperand_of_chain (h'.mono (Nat.le_max_right d d'))
  rw [hread] at hread'
  exact Except.ok.inj hread'

/-! ## 4. The expression of a list of tokens -/

/-- **`Expression.ofTokens` accepts exactly what the grammar spells** within the nesting that the
    rules allow, and gives that tree, with `AND` put above a lone leaf. Tokens spell at most one
    tree, at whatever nesting. -/
theorem ofTokens_eq_ok_iff (max : Nat) (ts : List Token) :
    (∀ e, Expression.ofTokens max ts = .ok e ↔ ∃ t, Chain .or max ts t ∧
      ((∃ op es, t = .compound op es ∧ e = t) ∨ (∃ l, t = .leaf l ∧ e = .compound .and [t]))) ∧
    ∀ d d' t t', Chain .or d ts t → Chain .or d' ts t' → t = t' := by
  refine ⟨fun e => ?_, fun d d' t t' h h' => h.unique h'⟩
  have hmap : Expression.ofTokens max ts = .ok e ↔ ∃ t, Chain .or max ts t ∧ t.rooted = e := by
    rw [Expression.ofTokens, map_eq_ok_iff]
    simp only [readOperand_eq_ok_iff]
  rw [hmap]
  refine exists_congr fun t => and_congr_right fun _ => ?_
  cases t with
  | leaf l => simp [Expression.rooted, eq_comm]
  | compound op es => simp [Expression.rooted, eq_comm]

theorem ofTokens_eq_ok_iff_group :
    ∃ t, Chain .or 1 [.leaf "a", .operator .or, .opening, .leaf "b", .operator .and, .leaf "c",
        .closing] t ∧ t = .compound .or [.leaf (.fresh .string "a"),
          .compound .and [.leaf (.fresh .string "b"), .leaf (.fresh .string "c")]] := by
  have hread : Expression.ofTokens 1 [.leaf "a", .operator .or, .opening, .leaf "b",
      .operator .and, .leaf "c", .closing] = .ok (.compound .or [.leaf (.fresh .string "a"),
        .compound .and [.leaf (.fresh .string "b"), .leaf (.fresh .string "c")]]) := rfl
  obtain ⟨t, ht, ⟨op, es, rfl, he⟩ | ⟨l, -, he⟩⟩ := ((ofTokens_eq_ok_iff 1 _).1 _).mp hread
  · exact ⟨_, ht, he.symm⟩
  · cases he

/-! ## 5. The expression of a text -/

theorem tokenize_eq_ok_iff {pattern : String} {ts : List Token} :
    tokenize pattern = .ok ts ↔ scan pattern.toList = .ok ts := by
  rw [tokenize]
  cases scan pattern.toList with
  | error e => simp
  | ok ts' => simp

variable [Regex.Engine]

/-- What the rules make of a tree that has been read: compiled ahead without a fault, or as it
    is. -/
def Rules.Readies (rules : Rules) (t e : Expression) : Prop :=
  if rules.compileAhead then t.compile = (.ok (), e) else e = t

/-- **What a text spells**: its tokens spell a tree, and the rules make it ready. -/
theorem parse_eq_ok_iff {pattern : String} {rules : Rules} {e : Expression} :
    parse pattern rules = .ok e ↔ ∃ ts t, scan pattern.toList = .ok ts ∧
      Chain .or rules.maxNesting ts t ∧ rules.Readies t.rooted e := by
  rw [parse]
  constructor
  · intro h
    split at h
    · cases h
    · next ts hts =>
      split at h
      · cases h
      · next t ht =>
        obtain ⟨t', ht', rfl⟩ := map_eq_ok_iff.mp ht
        refine ⟨ts, t', tokenize_eq_ok_iff.mp hts, chain_of_readOperand ht', ?_⟩
        unfold Rules.Readies
        split at h
        · next hahead =>
          rw [if_pos hahead]
          split at h
          · next e' he' =>
            cases h
            exact he'
          · cases h
        · next hahead =>
          rw [if_neg hahead]
          exact (Except.ok.inj h).symm
  · rintro ⟨ts, t, hts, ht, he⟩
    rw [tokenize_eq_ok_iff.mpr hts]
    have hread : Expression.ofTokens rules.maxNesting ts = .ok t.rooted :=
      map_eq_ok_iff.mpr ⟨t, readOperand_of_chain ht, rfl⟩
    dsimp only
    rw [hread]
    dsimp only
    unfold Rules.Readies at he
    split
    · next hahead =>
      rw [if_pos hahead] at he
      rw [he]
    · next hahead =>
      rw [if_neg hahead] at he
      rw [he]

end PageWatch.Pattern
