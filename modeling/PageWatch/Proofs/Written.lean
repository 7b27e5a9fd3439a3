import PageWatch.Proofs.Grammar
import PageWatch.Proofs.Memory
import PageWatch.Proofs.Quotation
import PageWatch.Regex.Basic

/-!
# Writing expressions

`Expression.written` is an expression as text: leaves with their kind and quoted pattern, operands
with the keyword between them, and parentheses only where they are needed. Main statement:
**reading undoes writing** (`parse_written`). On the way:

* `scan_writtenIn`: the text of an expression has the tokens `tokensIn`, in front of whatever may
  follow an operand;
* `spells_tokensIn`: these tokens spell the expression, at the nesting of its text;
* `deepest_tokensIn`: `Expression.nesting` is the depth of the parentheses in these tokens;
* `Spells.Chain.writable`: **what tokens spell is written with parentheses no deeper than theirs**.
-/

namespace PageWatch.Pattern

open PageWatch.Text Spells

/-! ## 1. The written form -/

/-- A compound of `op` is put in parentheses where it is an operand. Nothing needs them at the
    outside, and `AND` does not need them under `OR`. -/
def needsGroup : Option Operator → Operator → Bool
  | none, _ => false
  | some .or, .and => false
  | some _, _ => true

/-- The operator whose operands the chains of `op` are. -/
def Operator.outer : Operator → Option Operator
  | .and => some .or
  | .or => none

/-- The keyword of an operator with a blank on either side. -/
def Operator.separator (op : Operator) : List Char := ' ' :: (op.word.toList ++ [' '])

mutual

/-- The text of an expression, as an operand of `parent` or at the outside. -/
def Expression.writtenIn (parent : Option Operator) : Expression → List Char
  | .leaf l => l.written
  | .compound op es =>
    if needsGroup parent op then
      '(' :: (op.separator.intercalate (Expression.writtenOperands op es) ++ [')'])
    else op.separator.intercalate (Expression.writtenOperands op es)

/-- The texts of the operands of `op`. -/
def Expression.writtenOperands (op : Operator) : List Expression → List (List Char)
  | [] => []
  | e :: es => e.writtenIn (some op) :: Expression.writtenOperands op es

end

/-- **An expression as text.** -/
def Expression.written (e : Expression) : String := String.ofList (e.writtenIn none)

mutual

/-- How deep the parentheses nest in the text of an expression. -/
def Expression.nestingIn (parent : Option Operator) : Expression → Nat
  | .leaf _ => 0
  | .compound op es =>
    if needsGroup parent op then Expression.nestingOperands op es + 1
    else Expression.nestingOperands op es

/-- How deep the parentheses nest in the texts of the operands of `op`. -/
def Expression.nestingOperands (op : Operator) : List Expression → Nat
  | [] => 0
  | e :: es => max (e.nestingIn (some op)) (Expression.nestingOperands op es)

end

/-- How deep the parentheses of an expression nest when it is written. -/
def Expression.nesting (e : Expression) : Nat := e.nestingIn none

/-- The patterns of all leaves are there, and every compound has several operands. -/
inductive Expression.WellShaped : Expression → Prop
  | leaf {l : Leaf} (h : l.pattern ≠ "") : WellShaped (.leaf l)
  | compound {op : Operator} {es : List Expression} (hes : 2 ≤ es.length)
      (h : ∀ e ∈ es, e.WellShaped) : WellShaped (.compound op es)

mutual

/-- The tokens of the text of an expression. -/
def Expression.tokensIn (parent : Option Operator) : Expression → List Token
  | .leaf l => [.leaf (String.ofList l.written)]
  | .compound op es =>
    if needsGroup parent op then
      .opening :: ([Token.operator op].intercalate (Expression.tokensOperands op es) ++ [.closing])
    else [Token.operator op].intercalate (Expression.tokensOperands op es)

/-- The tokens of the texts of the operands of `op`. -/
def Expression.tokensOperands (op : Operator) : List Expression → List (List Token)
  | [] => []
  | e :: es => e.tokensIn (some op) :: Expression.tokensOperands op es

end

/-! ## 2. The written form is scanned -/

/-- What may stand behind an operand in a written expression. -/
inductive Follows : List Char → Prop
  | atEnd : Follows []
  | closing (rest : List Char) : Follows (')' :: rest)
  | keyword (op : Operator) (rest : List Char) : Follows (op.separator ++ rest)

theorem keyword?_word (op : Operator) (rest : List Char) :
    keyword? (op.word.toList ++ ' ' :: rest) = some (op, ' ' :: rest) :=
  keyword?_eq_some_iff.mpr ⟨rfl, rfl⟩

theorem Follows.leafTail {rest : List Char} (h : Follows rest) :
    ∃ v stop, rest = v ++ stop ∧ (∀ c ∈ v, isBlank c = true) ∧
      leafTail '"' (v ++ stop) = .ok (v, stop) := by
  cases h with
  | atEnd => exact ⟨[], [], rfl, by simp, leafTail_of_stops rfl⟩
  | closing rest => exact ⟨[], _, rfl, by simp, leafTail_of_stops rfl⟩
  | keyword op rest =>
    have hv : ∀ c ∈ [' '], isBlank c = true := List.all_eq_true.mp rfl
    have hstop := stopsLeaf_of_keyword (keyword?_word op rest)
    refine ⟨[' '], op.word.toList ++ ' ' :: rest, by simp [Operator.separator], hv, ?_⟩
    exact leafTail_blanks hv (by simp) hstop

theorem scan_separator (op : Operator) (rest : List Char) :
    scan (op.separator ++ rest) = (scan rest).map (.operator op :: ·) := by
  have htext : op.separator ++ rest = ' ' :: (op.word.toList ++ ' ' :: rest) := by
    simp [Operator.separator]
  rw [htext, scan_blank (by decide), scan_keyword (keyword?_word op rest), scan_blank (by decide)]

/-- Over operands, the text is scanned to the tokens, if the text of each is. -/
theorem scan_writtenOperands {op : Operator} {es : List Expression}
    (h : ∀ e ∈ es, ∀ rest, Follows rest →
      scan (e.writtenIn (some op) ++ rest) = (scan rest).map (e.tokensIn (some op) ++ ·))
    (rest : List Char) (hrest : Follows rest) :
    scan (op.separator.intercalate (Expression.writtenOperands op es) ++ rest) =
      (scan rest).map ([Token.operator op].intercalate (Expression.tokensOperands op es) ++ ·) := by
  induction es with
  | nil =>
    show scan rest = (scan rest).map ([] ++ ·)
    rw [map_nil_append]
  | cons e es ih =>
    obtain ⟨he, hes⟩ := List.forall_mem_cons.mp h
    cases es with
    | nil => simpa [Expression.writtenOperands, Expression.tokensOperands] using he rest hrest
    | cons e' es =>
      have ih := ih hes
      rw [Expression.writtenOperands, Expression.tokensOperands] at ih ⊢
      rw [Expression.writtenOperands, Expression.tokensOperands, List.intercalate_cons_cons,
        List.intercalate_cons_cons, List.append_assoc, List.append_assoc,
        he _ (.keyword op _), scan_separator, ih, map_map, map_map]
      congr 1
      funext ts
      simp

/-- **The text of an expression has its tokens**, in front of whatever may follow it. -/
theorem scan_writtenIn (e : Expression) (parent : Option Operator) {rest : List Char}
    (hrest : Follows rest) :
    scan (e.writtenIn parent ++ rest) = (scan rest).map (e.tokensIn parent ++ ·) := by
  induction e generalizing parent rest with
  | leaf l =>
    obtain ⟨v, stop, rfl, hv, htail⟩ := hrest.leafTail
    rw [Expression.writtenIn, Expression.tokensIn, scan_written hv htail]
    rfl
  | compound op es ih =>
    have hops := scan_writtenOperands fun e he _ h => ih e he (some op) h
    rw [Expression.writtenIn, Expression.tokensIn]
    split
    · rw [List.cons_append, List.append_assoc, List.singleton_append, scan_opening,
        hops _ (.closing rest), scan_closing, map_map, map_map]
      congr 1
      funext ts
      simp
    · exact hops rest hrest

/-- How many parentheses are open at once, at most, in tokens that `n` are open in front of. -/
def deepest (n : Nat) : List Token → Nat
  | [] => n
  | .opening :: ts => max n (deepest (n + 1) ts)
  | .closing :: ts => max n (deepest (n - 1) ts)
  | .operator _ :: ts => deepest n ts
  | .leaf _ :: ts => deepest n ts

theorem le_deepest (n : Nat) (ts : List Token) : n ≤ deepest n ts := by
  induction ts with
  | nil => exact Nat.le_refl n
  | cons t ts ih =>
    cases t with
    | opening => exact Nat.le_max_left _ _
    | closing => exact Nat.le_max_left _ _
    | operator op => exact ih
    | leaf raw => exact ih

theorem deepest_tokensOperands {op : Operator} {es : List Expression}
    (h : ∀ e ∈ es, ∀ n rest, deepest n (e.tokensIn (some op) ++ rest) =
      max (n + e.nestingIn (some op)) (deepest n rest)) (n : Nat) (rest : List Token) :
    deepest n ([Token.operator op].intercalate (Expression.tokensOperands op es) ++ rest) =
      max (n + Expression.nestingOperands op es) (deepest n rest) := by
  induction es with
  | nil => exact (Nat.max_eq_right (le_deepest n rest)).symm
  | cons e es ih =>
    obtain ⟨he, hes⟩ := List.forall_mem_cons.mp h
    rw [Expression.nestingOperands]
    cases es with
    | nil => simpa [Expression.tokensOperands, Expression.nestingOperands] using he n rest
    | cons e' es =>
      have ih := ih hes
      rw [Expression.tokensOperands] at ih ⊢
      rw [Expression.tokensOperands, List.intercalate_cons_cons, List.append_assoc,
        List.append_assoc, he, List.singleton_append, deepest, ih]
      omega

/-- **`Expression.nesting` is the depth of the parentheses in the tokens of the text.** -/
theorem deepest_tokensIn (e : Expression) (parent : Option Operator) (n : Nat)
    (rest : List Token) :
    deepest n (e.tokensIn parent ++ rest) = max (n + e.nestingIn parent) (deepest n rest) := by
  induction e generalizing parent n rest with
  | leaf l =>
    rw [Expression.tokensIn, Expression.nestingIn, List.singleton_append, deepest]
    exact (Nat.max_eq_right (le_deepest n rest)).symm
  | compound op es ih =>
    have hops := deepest_tokensOperands fun e he => ih e he (some op)
    rw [Expression.tokensIn, Expression.nestingIn]
    split
    · have hn := le_deepest n rest
      rw [List.cons_append, List.append_assoc, deepest, hops, List.singleton_append, deepest,
        Nat.add_sub_cancel]
      omega
    · exact hops n rest

/-! ## 3. The written form is spelled -/

/-- The tokens `ts` spell `e` where an operand of `parent` stands, or at the outside. -/
def SpellsIn (parent : Option Operator) (d : Nat) (ts : List Token) (e : Expression) : Prop :=
  match parent with
  | none => Chain .or d ts e
  | some op => Link op d ts e

theorem SpellsIn.of_primary {parent : Option Operator} {d : Nat} {ts : List Token}
    {e : Expression} (h : Primary d ts e) : SpellsIn parent d ts e := by
  match parent with
  | some .and => exact .and h
  | some .or => exact .or (.single (.and h))
  | none => exact .single (.or (.single (.and h)))

theorem SpellsIn.of_chain {parent : Option Operator} {op : Operator} {d : Nat} {ts : List Token}
    {e : Expression} (hg : needsGroup parent op = false) (h : Chain op d ts e) :
    SpellsIn parent d ts e := by
  match parent, op with
  | none, .and => exact .single (.or h)
  | none, .or => exact h
  | some .or, .and => exact .or h

theorem Spells.Chain.or_of_chain {op : Operator} {d : Nat} {ts : List Token} {e : Expression}
    (h : Chain op d ts e) : Chain .or d ts e := by
  have hs : SpellsIn none d ts e := .of_chain rfl h
  exact hs

/-- Over operands, the tokens are links, if the tokens of each are a link. -/
theorem links_tokensOperands {op : Operator} {es : List Expression} (hne : es ≠ [])
    (h : ∀ e ∈ es, Link op (e.nestingIn (some op)) (e.tokensIn (some op)) e.forget) :
    Links op (Expression.nestingOperands op es)
      ([Token.operator op].intercalate (Expression.tokensOperands op es))
      (es.map Expression.forget) := by
  induction es with
  | nil => exact absurd rfl hne
  | cons e es ih =>
    obtain ⟨he, hes⟩ := List.forall_mem_cons.mp h
    rw [Expression.nestingOperands]
    have he := he.mono (Nat.le_max_left _ (Expression.nestingOperands op es))
    cases es with
    | nil => simpa [Expression.tokensOperands] using Links.one he
    | cons e' es =>
      have ih := (ih (List.cons_ne_nil _ _) hes).mono (Nat.le_max_right (e.nestingIn (some op)) _)
      rw [Expression.tokensOperands] at ih ⊢
      rw [Expression.tokensOperands, List.intercalate_cons_cons, List.map_cons]
      simpa using Links.more he ih

/-- **The tokens of a written expression spell it**, at the nesting of its text. -/
theorem spells_tokensIn {e : Expression} (h : e.WellShaped) (parent : Option Operator) :
    SpellsIn parent (e.nestingIn parent) (e.tokensIn parent) e.forget := by
  induction h generalizing parent with
  | leaf h =>
    rw [Expression.nestingIn, Expression.tokensIn, forget_leaf]
    exact .of_primary (.leaf (ofRaw_written h))
  | @compound op es hes _ ih =>
    have hne : es ≠ [] := by
      rintro rfl
      simp at hes
    have hlinks := links_tokensOperands hne fun e he => ih e he (some op)
    have hchain := Chain.several hlinks (by simpa using hes)
    rw [Expression.nestingIn, Expression.tokensIn, forget_compound]
    split
    · exact .of_primary (.group hchain.or_of_chain)
    · next hg => exact .of_chain (Bool.eq_false_iff.mpr hg) hchain

/-! ## 4. What is spelled can be written with the same nesting -/

theorem nestingIn_le_of_needsGroup {parent parent' : Option Operator}
    (h : ∀ op, needsGroup parent op = true → needsGroup parent' op = true) (e : Expression) :
    e.nestingIn parent ≤ e.nestingIn parent' := by
  cases e with
  | leaf l => simp [Expression.nestingIn]
  | compound op es =>
    rw [Expression.nestingIn, Expression.nestingIn]
    split
    · next hg => rw [if_pos (h op hg)]
    · split
      · exact Nat.le_succ _
      · exact Nat.le_refl _

theorem nestingIn_le_succ (parent : Option Operator) (e : Expression) :
    e.nestingIn parent ≤ e.nesting + 1 := by
  cases e with
  | leaf l => simp [Expression.nestingIn]
  | compound op es =>
    rw [Expression.nesting, Expression.nestingIn, Expression.nestingIn, needsGroup]
    split <;> simp

theorem nestingOperands_le {op : Operator} {d : Nat} {es : List Expression}
    (h : ∀ e ∈ es, e.nestingIn (some op) ≤ d) : Expression.nestingOperands op es ≤ d := by
  induction es with
  | nil => exact Nat.zero_le d
  | cons e es ih =>
    obtain ⟨he, hes⟩ := List.forall_mem_cons.mp h
    exact Nat.max_le.mpr ⟨he, ih hes⟩

/-- What a tree needs so that writing it under `parent` and reading it back gives it back. -/
structure Writable (parent : Option Operator) (d : Nat) (e : Expression) : Prop where
  shaped : e.WellShaped
  forget_eq : e.forget = e
  nesting_le : e.nestingIn parent ≤ d

theorem Leaf.eq_fresh_of_ofRaw {raw : String} {l : Leaf} (h : Leaf.ofRaw raw = .ok l) :
    ∃ kind pattern, pattern ≠ "" ∧ l = .fresh kind pattern := by
  rw [Leaf.ofRaw] at h
  dsimp only at h
  split at h
  · cases h
  · next hne =>
    refine ⟨_, _, fun hp => hne ?_, (Except.ok.inj h).symm⟩
    simpa using congrArg String.toList hp

mutual

theorem Spells.Primary.writable {d : Nat} {ts : List Token} {e : Expression} :
    Primary d ts e → Writable (some .and) d e
  | .leaf h => by
    obtain ⟨kind, pattern, hp, rfl⟩ := Leaf.eq_fresh_of_ofRaw h
    exact ⟨.leaf hp, forget_leaf _, Nat.zero_le _⟩
  | .group (d := k) h => by
    -- The text writes the group's own parentheses only where it needs them, so this is a bound.
    have h : Writable none k e := h.writable
    exact ⟨h.shaped, h.forget_eq, (nestingIn_le_succ _ e).trans (Nat.succ_le_succ h.nesting_le)⟩

theorem Spells.Link.writable {op : Operator} {d : Nat} {ts : List Token} {e : Expression} :
    Link op d ts e → Writable (some op) d e
  | .and h => h.writable
  | .or h => h.writable

theorem Spells.Links.writable {op : Operator} {d : Nat} {ts : List Token} {es : List Expression} :
    Links op d ts es → ∀ e ∈ es, Writable (some op) d e
  | .one h => List.forall_mem_cons.mpr ⟨h.writable, by simp⟩
  | .more h hs => List.forall_mem_cons.mpr ⟨h.writable, hs.writable⟩

theorem Spells.Chain.writable {op : Operator} {d : Nat} {ts : List Token} {e : Expression} :
    Chain op d ts e → Writable op.outer d e
  | .single h => by
    have h := h.writable
    -- A lone operand of a chain is written where the chain stands, with no more parentheses.
    have hg : ∀ op', needsGroup op.outer op' = true → needsGroup (some op) op' = true := by
      intro op' h'
      cases op <;> cases op' <;> first | rfl | cases h'
    exact ⟨h.shaped, h.forget_eq, (nestingIn_le_of_needsGroup hg e).trans h.nesting_le⟩
  | .several h hes => by
    have h := h.writable
    have hg : needsGroup op.outer op = false := by cases op <;> rfl
    refine ⟨.compound hes fun e he => (h e he).shaped, ?_, ?_⟩
    · rw [forget_compound, List.map_congr_left fun e he => (h e he).forget_eq, List.map_id']
    · rw [Expression.nestingIn, if_neg (by simp [hg])]
      exact nestingOperands_le fun e he => (h e he).nesting_le

end

/-! ## 5. What the rules make of a tree -/

theorem forget_rooted (e : Expression) : e.rooted.forget = e.forget.rooted := by
  cases e with
  | leaf l => simp [Expression.rooted]
  | compound op es => simp [Expression.rooted]

theorem leaves_rooted (e : Expression) : e.rooted.leaves = e.leaves := by
  cases e with
  | leaf l => simp [Expression.rooted]
  | compound op es => rfl

theorem exists_compound_rooted (e : Expression) : ∃ op es, e.rooted = .compound op es := by
  cases e with
  | leaf l => exact ⟨.and, [.leaf l], rfl⟩
  | compound op es => exact ⟨op, es, rfl⟩

section Engine

variable [Regex.Engine]

/-- What the rules make of a tree is the tree, with faithful memories. -/
theorem Rules.Readies.learned {rules : Rules} {t e : Expression} (ht : t.Faithful)
    (h : rules.Readies t e) : t.Learned e := by
  unfold Rules.Readies at h
  split at h
  · have hc := compile_learned ht
    rwa [h] at hc
  · rw [h]
    exact ⟨rfl, ht⟩

theorem Rules.exists_readies {rules : Rules} {t : Expression} (ht : t.Faithful)
    (hc : rules.compileAhead = true → ∀ l ∈ t.leaves, l.Compiles) : ∃ e, rules.Readies t e := by
  unfold Rules.Readies
  split
  · next hahead =>
    have hok : t.compile.1 = .ok () := (compile_eq_ok_iff ht).mpr (hc hahead)
    exact ⟨t.compile.2, Prod.ext hok rfl⟩
  · exact ⟨t, rfl⟩

/-- Every parsed expression has an operator at its root. -/
theorem compound_of_parse {s : String} {rules : Rules} {e : Expression}
    (h : parse s rules = .ok e) : ∃ op es, e = .compound op es := by
  obtain ⟨ts, t, -, -, hr⟩ := parse_eq_ok_iff.mp h
  obtain ⟨op, es, ht⟩ := exists_compound_rooted t
  rw [Rules.Readies, ht] at hr
  split at hr
  · rw [compile_compound] at hr
    exact ⟨op, _, (congrArg Prod.snd hr).symm⟩
  · exact ⟨op, es, hr⟩

/-- **What a parsed expression comes from**: a tree that can be written back. It is the expression
    with nothing remembered. -/
theorem exists_tree_of_parse {s : String} {rules : Rules} {e : Expression}
    (h : parse s rules = .ok e) :
    ∃ t, Writable none rules.maxNesting t ∧ rules.Readies t.rooted e ∧ t.rooted.Learned e ∧
      e.forget = t.rooted := by
  obtain ⟨ts, t, -, ht, hr⟩ := parse_eq_ok_iff.mp h
  have ht : Writable none rules.maxNesting t := ht.writable
  have hf : t.rooted.forget = t.rooted := by rw [forget_rooted, ht.forget_eq]
  have hl : t.rooted.Learned e := hr.learned (faithful_of_forget_eq hf)
  exact ⟨t, ht, hr, hl, hl.forget_eq.trans hf⟩

theorem faithful_of_parse {s : String} {rules : Rules} {e : Expression}
    (h : parse s rules = .ok e) : e.Faithful := by
  obtain ⟨t, -, -, hl, -⟩ := exists_tree_of_parse h
  exact hl.faithful

end Engine

/-! ## 6. Reading what was written -/

theorem writtenOperands_forget {op : Operator} {es : List Expression}
    (h : ∀ e ∈ es, e.forget.writtenIn (some op) = e.writtenIn (some op)) :
    Expression.writtenOperands op (es.map Expression.forget) =
      Expression.writtenOperands op es := by
  induction es with
  | nil => rfl
  | cons e es ih =>
    obtain ⟨he, hes⟩ := List.forall_mem_cons.mp h
    rw [List.map_cons, Expression.writtenOperands, Expression.writtenOperands, he, ih hes]

/-- What leaves remember is not written. -/
theorem writtenIn_forget (e : Expression) (parent : Option Operator) :
    e.forget.writtenIn parent = e.writtenIn parent := by
  induction e generalizing parent with
  | leaf l =>
    rw [forget_leaf, Expression.writtenIn, Expression.writtenIn]
    rfl
  | compound op es ih =>
    rw [forget_compound, Expression.writtenIn, Expression.writtenIn,
      writtenOperands_forget fun e he => ih e he (some op)]

theorem written_forget (e : Expression) : e.forget.written = e.written := by
  rw [Expression.written, writtenIn_forget, Expression.written]

/-- A lone operand at the outside is written as itself. -/
theorem written_rooted (e : Expression) : e.rooted.written = e.written := by
  cases e with
  | leaf l =>
    simp [Expression.rooted, Expression.written, Expression.writtenIn, Expression.writtenOperands,
      needsGroup]
  | compound op es => rfl

section Engine

variable [Regex.Engine]

/-- **What the text of an expression spells**: the expression, made ready by the rules. -/
theorem parse_written_eq_ok_iff {e e' : Expression} {rules : Rules} (h : e.WellShaped)
    (hn : e.nesting ≤ rules.maxNesting) :
    parse e.written rules = .ok e' ↔ rules.Readies e.forget.rooted e' := by
  have hscan : scan e.written.toList = .ok (e.tokensIn none) := by
    have hend := scan_writtenIn e none .atEnd
    rw [List.append_nil] at hend
    rw [Expression.written, String.toList_ofList, hend]
    simp [scan]
  have hchain : Chain .or e.nesting (e.tokensIn none) e.forget := spells_tokensIn h none
  rw [parse_eq_ok_iff]
  constructor
  · rintro ⟨ts, t, hts, ht, hr⟩
    obtain rfl : e.tokensIn none = ts := Except.ok.inj (hscan.symm.trans hts)
    rwa [hchain.unique ht]
  · intro hr
    exact ⟨_, _, hscan, hchain.mono hn, hr⟩

theorem compiles_of_mem_leaves_forget {e : Expression} (h : ∀ l ∈ e.leaves, l.Compiles) :
    ∀ l ∈ e.forget.leaves, l.Compiles := by
  rw [leaves_forget, List.forall_mem_map]
  exact h

/-- **Reading undoes writing.** (1) An expression that is well shaped, or is a lone leaf under
    `AND`, is written as a text that is read as the same expression, with `AND` above a bare leaf:
    under all rules that allow the nesting of the text and either compile nothing ahead or can
    compile all leaves. (2) Writing any expression that was read gives a text that is read, under
    the same rules, as exactly that expression. -/
theorem parse_written :
    (∀ (e : Expression) (rules : Rules),
      (e.WellShaped ∨ ∃ l, l.pattern ≠ "" ∧ e = .compound .and [.leaf l]) →
      e.nesting ≤ rules.maxNesting →
      (rules.compileAhead = true → ∀ l ∈ e.leaves, l.Compiles) →
      ∃ e', parse e.written rules = .ok e' ∧ e'.same e.rooted = true) ∧
    ∀ (s : String) (rules : Rules) (e : Expression),
      parse s rules = .ok e → parse e.written rules = .ok e := by
  refine ⟨fun e rules he hn hc => ?_, fun s rules e h => ?_⟩
  · -- A lone leaf under `AND` has the text of the leaf.
    obtain ⟨t, ht, hr, hw, hl, hd⟩ : ∃ t : Expression, t.WellShaped ∧ t.rooted = e.rooted ∧
        t.written = e.written ∧ t.leaves = e.leaves ∧ t.nesting ≤ rules.maxNesting := by
      rcases he with he | ⟨l, hl, rfl⟩
      · exact ⟨e, he, rfl, rfl, rfl, hn⟩
      · exact ⟨.leaf l, .leaf hl, rfl, (written_rooted (.leaf l)).symm,
          (leaves_rooted (.leaf l)).symm, Nat.zero_le _⟩
    have hf : t.forget.rooted.forget = t.forget.rooted := by rw [forget_rooted, forget_forget]
    obtain ⟨e', he'⟩ : ∃ e', rules.Readies t.forget.rooted e' := by
      refine Rules.exists_readies (faithful_of_forget_eq hf) fun hahead => ?_
      rw [leaves_rooted]
      refine compiles_of_mem_leaves_forget ?_
      rw [hl]
      exact hc hahead
    refine ⟨e', ?_, ?_⟩
    · rw [← hw]
      exact (parse_written_eq_ok_iff ht hd).mpr he'
    · rw [same_iff_forget_eq, (he'.learned (faithful_of_forget_eq hf)).forget_eq, hf, ← hr,
        forget_rooted]
  · obtain ⟨t, ht, hr, -, hforget⟩ := exists_tree_of_parse h
    rw [← written_forget, hforget, written_rooted, parse_written_eq_ok_iff ht.shaped ht.nesting_le,
      ht.forget_eq]
    exact hr

end Engine

theorem parse_written_group :
    ∃ e', parse (Expression.compound .and [.leaf (.fresh .string "AND \"x"),
        .compound .or [.leaf (.fresh .regex "a+"), .leaf (.fresh .string ")")]]).written {} =
          .ok e' ∧ parse e'.written {} = .ok e' := by
  have hor : (Expression.compound .or
      [.leaf (.fresh .regex "a+"), .leaf (.fresh .string ")")]).WellShaped :=
    .compound (by decide) (by simpa using ⟨.leaf (by decide), .leaf (by decide)⟩)
  have hand : (Expression.compound .and [.leaf (.fresh .string "AND \"x"),
      .compound .or [.leaf (.fresh .regex "a+"), .leaf (.fresh .string ")")]]).WellShaped :=
    .compound (by decide) (by simpa using ⟨.leaf (by decide), hor⟩)
  have hregex : (Regex.Engine.compile "a+").isOk = true := by decide +kernel
  obtain ⟨e', h, -⟩ := parse_written.1 _ {} (.inl hand) (by decide)
    fun _ => by simpa [Leaf.Compiles, Leaf.fresh] using hregex
  exact ⟨e', h, parse_written.2 _ _ _ h⟩

example : (Expression.compound .and [.leaf (.fresh .string "AND \"x"), .compound .or
    [.leaf (.fresh .regex "a+"), .leaf (.fresh .string ")")]]).written =
      "string:\"AND \\\"x\" AND (regex:\"a+\" OR string:\")\")" := by
  decide

/-- Reading never gives back a bare leaf: `AND` stands above it. -/
theorem bareLeaf_not_reread :
    (Expression.leaf (.fresh .string "a")).WellShaped ∧
      (Expression.leaf (.fresh .string "a")).nesting ≤ ({} : Rules).maxNesting ∧
      (∀ l ∈ (Expression.leaf (.fresh .string "a")).leaves, l.Compiles) ∧
      ¬∃ e', parse (Expression.leaf (.fresh .string "a")).written {} = .ok e' ∧
        e'.same (.leaf (.fresh .string "a")) = true := by
  refine ⟨.leaf (by decide), Nat.zero_le _, ?_, ?_⟩
  · simp [Leaf.Compiles, Leaf.fresh]
  · rintro ⟨e', h, hs⟩
    obtain ⟨op, es, rfl⟩ := compound_of_parse h
    simp [Expression.same] at hs

end PageWatch.Pattern
