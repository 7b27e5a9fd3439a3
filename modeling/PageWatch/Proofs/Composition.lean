import PageWatch.Proofs.Written
import PageWatch.Regex.Basic

/-!
# Composing patterns

Two patterns can be put in parentheses and joined by a keyword, whatever they are. Nothing of one
text leaks into the other: **the composed text has the tokens of its parts** (`scan_group`), the
tree the trees of its parts (`Rules.Readies.pair`), and the outcome the outcomes of its parts
(`evaluate_pair`).
-/

namespace PageWatch.Pattern

open PageWatch.Text Spells

/-- An expression without the operator that stands above a lone operand. -/
def Expression.core : Expression → Expression
  | .compound _ [e] => e
  | e => e

/-! ## 1. Tokens -/

/-- **A text in parentheses** has its tokens between parentheses, in front of whatever follows. -/
theorem scan_group {a : List Char} {ts : List Token} (h : scan a = .ok ts) (rest : List Char) :
    scan ('(' :: ' ' :: (a ++ ' ' :: ')' :: rest)) =
      (scan rest).map (.opening :: ts ++ [.closing] ++ ·) := by
  have hv : ∀ c ∈ [' '], isBlank c = true := List.all_eq_true.mp rfl
  have hstop : stopsLeaf true (')' :: rest) = true := rfl
  have happend := scan_append h (List.cons_ne_nil _ _) hv hstop
  rw [List.singleton_append] at happend
  rw [scan_opening, scan_blank (by decide), happend, scan_closing, map_map, map_map]
  congr 1
  funext us
  simp

theorem toList_group (a : String) :
    ("( " ++ a ++ " )").toList = '(' :: ' ' :: (a.toList ++ ' ' :: ')' :: []) := by
  simp

theorem toList_pair (a b : String) (op : Operator) :
    ("( " ++ a ++ " ) " ++ op.word ++ " ( " ++ b ++ " )").toList =
      '(' :: ' ' :: (a.toList ++ ' ' :: ')' ::
        (op.separator ++ '(' :: ' ' :: (b.toList ++ ' ' :: ')' :: []))) := by
  simp [Operator.separator]

/-! ## 2. Trees -/

theorem Spells.Chain.pair {d : Nat} {ts us : List Token} {a b : Expression} (op : Operator)
    (ha : Chain .or d ts a) (hb : Chain .or d us b) :
    Chain .or (d + 1) (.opening :: ts ++ [.closing] ++
      .operator op :: (.opening :: us ++ [.closing])) (.compound op [a, b]) := by
  have hla : SpellsIn (some op) (d + 1) (.opening :: ts ++ [.closing]) a := .of_primary (.group ha)
  have hlb : SpellsIn (some op) (d + 1) (.opening :: us ++ [.closing]) b := .of_primary (.group hb)
  exact (Chain.several (.more hla (.one hlb)) (Nat.le_refl 2)).or_of_chain

theorem core_of_two_le {op : Operator} {es : List Expression} (h : 2 ≤ es.length) :
    (Expression.compound op es).core = .compound op es := by
  match es with
  | _ :: _ :: _ => rfl

theorem core_rooted {t : Expression} (ht : t.WellShaped) : t.rooted.core = t := by
  cases ht with
  | leaf h => rfl
  | compound hes h => exact core_of_two_le hes

section Engine

variable [Regex.Engine]

theorem length_compileAll (es : List Expression) :
    (Expression.compileAll es).2.length = es.length := by
  induction es with
  | nil => rfl
  | cons e es ih =>
    cases hc : e.compile with
    | mk result e' =>
      cases result with
      | ok u => rw [compileAll_cons_of_ok hc, List.length_cons, List.length_cons, ih]
      | error err =>
        rw [compileAll_cons_of_error hc]
        rfl

/-- The operator above a lone leaf is no leaf, so it changes nothing about compiling. -/
theorem compile_core_of_rooted {t e : Expression} (ht : t.WellShaped)
    (h : t.rooted.compile = (.ok (), e)) : t.compile = (.ok (), e.core) := by
  cases ht with
  | @leaf l _ =>
    rw [Expression.rooted, compile_compound] at h
    cases hc : (Expression.leaf l).compile with
    | mk result e' =>
      cases result with
      | ok u =>
        rw [compileAll_cons_of_ok hc] at h
        obtain rfl : _ = e := congrArg Prod.snd h
        rfl
      | error err =>
        rw [compileAll_cons_of_error hc] at h
        cases congrArg Prod.fst h
  | @compound op es hes _ =>
    have hcore : e.core = e := by
      rw [Expression.rooted, compile_compound] at h
      obtain rfl : _ = e := congrArg Prod.snd h
      have hlen := length_compileAll es
      exact core_of_two_le (by omega)
    rw [hcore]
    exact h

/-- The core of what the rules make of a tree is what they make of the tree without the operator
    that was put above a lone leaf. -/
theorem Rules.Readies.core {rules : Rules} {t e : Expression} (ht : t.WellShaped)
    (h : rules.Readies t.rooted e) : rules.Readies t e.core := by
  unfold Rules.Readies at h ⊢
  split
  · next hahead =>
    rw [if_pos hahead] at h
    exact compile_core_of_rooted ht h
  · next hahead =>
    rw [if_neg hahead] at h
    rw [h, core_rooted ht]

theorem Rules.Readies.pair {rules : Rules} {a b ea eb : Expression} (op : Operator)
    (ha : rules.Readies a ea) (hb : rules.Readies b eb) :
    rules.Readies (.compound op [a, b]) (.compound op [ea, eb]) := by
  unfold Rules.Readies at ha hb ⊢
  split
  · next hahead =>
    rw [if_pos hahead] at ha hb
    rw [compile_compound, compileAll_cons_of_ok ha, compileAll_cons_of_ok hb]
    rfl
  · next hahead =>
    rw [if_neg hahead] at ha hb
    rw [ha, hb]

/-! ## 3. Outcomes -/

theorem evaluateAll_nil (content : String) (index : Nat) :
    Expression.evaluateAll content index [] = (.ok ([], []), []) := by
  rw [Expression.evaluateAll]

/-- **An operator above a lone operand** does not change its outcome. An error is one step further
    away. -/
theorem evaluate_lone (op : Operator) (e : Expression) (content : String) :
    (Expression.compound op [e]).evaluate content =
      ((e.evaluate content).1.mapError (.child 1), .compound op [(e.evaluate content).2]) := by
  rw [evaluate_cons]
  cases hc : e.evaluate content with
  | mk result e' =>
    cases result with
    | ok o =>
      have hverdict : op.verdict [o.found] = o.found := by
        cases op <;> simp [Operator.verdict]
      rw [evaluateAll_cons_of_ok hc, evaluateAll_nil]
      simp [hverdict]
    | error err =>
      rw [evaluateAll_cons_of_error hc]
      rfl

theorem evaluate_core {e : Expression} {content : String} {o : Outcome}
    (h : (e.evaluate content).1 = .ok o) : (e.core.evaluate content).1 = .ok o := by
  match e with
  | .leaf l => exact h
  | .compound op [] => exact h
  | .compound op (_ :: _ :: _) => exact h
  | .compound op [e] =>
    rw [evaluate_lone] at h
    exact mapError_eq_ok_iff.mp h

/-- **The outcome of two operands.** -/
theorem evaluate_pair {a b : Expression} {content : String} {oa ob : Outcome} (op : Operator)
    (ha : (a.evaluate content).1 = .ok oa) (hb : (b.evaluate content).1 = .ok ob) :
    ((Expression.compound op [a, b]).evaluate content).1 =
      .ok ⟨op.verdict [oa.found, ob.found], oa.matched ++ ob.matched⟩ := by
  have ha : a.evaluate content = (.ok oa, (a.evaluate content).2) := Prod.ext ha rfl
  have hb : b.evaluate content = (.ok ob, (b.evaluate content).2) := Prod.ext hb rfl
  rw [evaluate_cons, evaluateAll_cons_of_ok ha, evaluateAll_cons_of_ok hb, evaluateAll_nil]
  simp

/-! ## 4. Patterns -/

/-- **Patterns compose.** In parentheses a pattern is read as it is without them, one level deeper.
    Two patterns in parentheses with a keyword between them are read as that operator over both,
    and the outcome combines their outcomes. -/
theorem patterns_compose {a b : String} {d : Nat} {v : Bool} {ea eb : Expression} (op : Operator)
    (ha : parse a ⟨d, v⟩ = .ok ea) (hb : parse b ⟨d, v⟩ = .ok eb) :
    parse ("( " ++ a ++ " )") ⟨d + 1, v⟩ = .ok ea ∧
      parse ("( " ++ a ++ " ) " ++ op.word ++ " ( " ++ b ++ " )") ⟨d + 1, v⟩ =
        .ok (.compound op [ea.core, eb.core]) ∧
      ∀ (content : String) (oa ob : Outcome), (ea.evaluate content).1 = .ok oa →
        (eb.evaluate content).1 = .ok ob →
        ((Expression.compound op [ea.core, eb.core]).evaluate content).1 =
          .ok ⟨match op with
            | .and => oa.found && ob.found
            | .or => oa.found || ob.found, oa.matched ++ ob.matched⟩ := by
  obtain ⟨ts, ta, hts, hta, hra⟩ := parse_eq_ok_iff.mp ha
  obtain ⟨us, tb, hus, htb, hrb⟩ := parse_eq_ok_iff.mp hb
  refine ⟨?_, ?_, fun content oa ob hoa hob => ?_⟩
  · refine parse_eq_ok_iff.mpr ⟨.opening :: ts ++ [.closing], ta, ?_, ?_, hra⟩
    · rw [toList_group, scan_group hts]
      simp [scan]
    · have h : SpellsIn none (d + 1) (.opening :: ts ++ [.closing]) ta := .of_primary (.group hta)
      exact h
  · refine parse_eq_ok_iff.mpr ⟨_, _, ?_, hta.pair op htb, ?_⟩
    · rw [toList_pair, scan_group hts, scan_separator, scan_group hus]
      simp [scan]
    · exact (hra.core hta.writable.shaped).pair op (hrb.core htb.writable.shaped)
  · rw [evaluate_pair op (evaluate_core hoa) (evaluate_core hob)]
    cases op <;> simp [Operator.verdict]

end Engine

theorem patterns_compose_and :
    ∃ ea eb, parse "x OR y" ⟨0, true⟩ = .ok ea ∧ parse "z" ⟨0, true⟩ = .ok eb ∧
      parse "( x OR y ) AND ( z )" ⟨1, true⟩ = .ok (.compound .and [ea.core, eb.core]) ∧
      ((Expression.compound .and [ea.core, eb.core]).evaluate "zyx").1 =
        .ok ⟨true, ["x", "y", "z"]⟩ := by
  have hx : scan "x OR y".toList = .ok [.leaf "x", .operator .or, .leaf "y"] := by
    decide +kernel
  have hz : scan "z".toList = .ok [.leaf "z"] := by
    decide +kernel
  have ha : parse "x OR y" ⟨0, true⟩ = .ok (.compound .or
      [.leaf (.fresh .string "x"), .leaf (.fresh .string "y")]) := by
    rw [parse, tokenize_eq_ok_iff.mpr hx]
    rfl
  have hb : parse "z" ⟨0, true⟩ = .ok (.compound .and [.leaf (.fresh .string "z")]) := by
    rw [parse, tokenize_eq_ok_iff.mpr hz]
    rfl
  obtain ⟨-, hparse, hevaluate⟩ := patterns_compose .and ha hb
  exact ⟨_, _, ha, hb, hparse, hevaluate "zyx" ⟨true, ["x", "y"]⟩ ⟨true, ["z"]⟩ rfl rfl⟩

end PageWatch.Pattern
