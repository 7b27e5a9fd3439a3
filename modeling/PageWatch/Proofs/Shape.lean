import PageWatch.Proofs.FaultPath
import PageWatch.Proofs.Written

/-!
# The shape of what is read

What every expression that was read from tokens looks like. The grammar carries all of it, so each
part is one induction on how the tokens spell the tree:

* `Spells.Chain.leaves_eq`: **the leaves of the tree are the leaf tokens in their order**, none
  lost, none doubled;
* `Spells.Chain.height_le`: a chain adds one level of compounds for `AND` and two for `OR`, and only
  a group can hold another chain, so the nesting of parentheses bounds the height;
* `length_le_height`: the height bounds how far down a walk over the tree comes.

Main statement: `ofTokens_shape`.
-/

namespace PageWatch.Pattern

open Spells

/-! ## 1. Leaves -/

/-- What the leaf tokens stand for, in their order. -/
def leavesOfTokens (ts : List Token) : List (Except ParseError Leaf) :=
  (ts.filterMap Token.raw?).map Leaf.ofRaw

theorem leavesOfTokens_append (ts us : List Token) :
    leavesOfTokens (ts ++ us) = leavesOfTokens ts ++ leavesOfTokens us := by
  rw [leavesOfTokens, List.filterMap_append, List.map_append]
  rfl

theorem leavesOfTokens_cons_of_none {t : Token} (h : t.raw? = none) (ts : List Token) :
    leavesOfTokens (t :: ts) = leavesOfTokens ts := by
  rw [leavesOfTokens, List.filterMap_cons_none h]
  rfl

mutual

theorem Spells.Primary.leaves_eq {d : Nat} {ts : List Token} {e : Expression} :
    Primary d ts e → leavesOfTokens ts = e.leaves.map .ok
  | .leaf h => by
    rw [leaves_leaf]
    show [Leaf.ofRaw _] = [.ok _]
    rw [h]
  | .group (d := k) h => by
    rw [leavesOfTokens_append, leavesOfTokens_cons_of_none rfl, h.leaves_eq]
    exact List.append_nil _

theorem Spells.Link.leaves_eq {op : Operator} {d : Nat} {ts : List Token} {e : Expression} :
    Link op d ts e → leavesOfTokens ts = e.leaves.map .ok
  | .and h => h.leaves_eq
  | .or h => h.leaves_eq

theorem Spells.Links.leaves_eq {op : Operator} {d : Nat} {ts : List Token}
    {es : List Expression} :
    Links op d ts es → leavesOfTokens ts = (es.flatMap Expression.leaves).map .ok
  | .one h => by rw [List.flatMap_singleton, h.leaves_eq]
  | .more h hs => by
    rw [leavesOfTokens_append, leavesOfTokens_cons_of_none rfl, h.leaves_eq, hs.leaves_eq,
      List.flatMap_cons, List.map_append]

theorem Spells.Chain.leaves_eq {op : Operator} {d : Nat} {ts : List Token} {e : Expression} :
    Chain op d ts e → leavesOfTokens ts = e.leaves.map .ok
  | .single h => h.leaves_eq
  | .several h _ => by rw [leaves_compound, h.leaves_eq]

end

/-- What leaf tokens stand for has a pattern. -/
theorem pattern_ne_of_leavesOfTokens {ts : List Token} {ls : List Leaf} {l : Leaf}
    (h : leavesOfTokens ts = ls.map .ok) (hl : l ∈ ls) : l.pattern ≠ "" := by
  have hmem : Except.ok l ∈ leavesOfTokens ts := by
    rw [h]
    exact List.mem_map_of_mem hl
  obtain ⟨raw, -, hraw⟩ := List.mem_map.mp hmem
  obtain ⟨kind, pattern, hne, rfl⟩ := Leaf.eq_fresh_of_ofRaw hraw
  exact hne

/-! ## 2. Height -/

mutual

/-- How many compounds stand inside one another, at most. -/
def Expression.height : Expression → Nat
  | .leaf _ => 0
  | .compound _ es => Expression.heightOfAll es + 1

/-- The greatest height of expressions. -/
def Expression.heightOfAll : List Expression → Nat
  | [] => 0
  | e :: es => max e.height (Expression.heightOfAll es)

end

theorem height_le_heightOfAll {e : Expression} {es : List Expression} (h : e ∈ es) :
    e.height ≤ Expression.heightOfAll es := by
  induction es with
  | nil => cases h
  | cons e' es ih =>
    rw [Expression.heightOfAll]
    rcases List.mem_cons.mp h with rfl | h
    · exact Nat.le_max_left _ _
    · exact Nat.le_trans (ih h) (Nat.le_max_right _ _)

/-- **A walk from node to operand comes no further down than the height.** -/
theorem length_le_height {e n : Expression} {path : List Nat} (h : e.node? path = some n) :
    path.length + n.height ≤ e.height := by
  induction e generalizing path with
  | leaf l =>
    obtain ⟨rfl, rfl⟩ := node?_leaf.mp h
    exact Nat.le_of_eq (Nat.zero_add _)
  | compound op es ih =>
    obtain ⟨rfl, rfl⟩ | ⟨i, e, q, rfl, he, hq⟩ := node?_compound.mp h
    · exact Nat.le_of_eq (Nat.zero_add _)
    · have hmem := List.mem_of_getElem? he
      have hbelow := ih e hmem hq
      have hle := height_le_heightOfAll hmem
      rw [List.length_cons, Expression.height]
      omega

/-- How many levels of compounds a chain has outside its groups, at most: one of `AND`, and for
    chains of `OR` one more above it. -/
def Operator.levels : Operator → Nat
  | .and => 1
  | .or => 2

mutual

theorem Spells.Primary.height_le {d : Nat} {ts : List Token} {e : Expression} :
    Primary d ts e → e.height ≤ 2 * d
  | .leaf _ => by
    rw [Expression.height]
    exact Nat.zero_le _
  | .group h => h.height_le

theorem Spells.Link.height_le {op : Operator} {d : Nat} {ts : List Token} {e : Expression} :
    Link op d ts e → e.height + 1 ≤ 2 * d + op.levels
  | .and h => Nat.succ_le_succ h.height_le
  | .or h => Nat.succ_le_succ h.height_le

theorem Spells.Links.height_le {op : Operator} {d : Nat} {ts : List Token}
    {es : List Expression} :
    Links op d ts es → Expression.heightOfAll es + 1 ≤ 2 * d + op.levels
  | .one h => by
    rw [Expression.heightOfAll, Expression.heightOfAll, Nat.max_zero]
    exact h.height_le
  | .more h hs => by
    have hfirst := h.height_le
    have hrest := hs.height_le
    rw [Expression.heightOfAll]
    omega

theorem Spells.Chain.height_le {op : Operator} {d : Nat} {ts : List Token} {e : Expression} :
    Chain op d ts e → e.height ≤ 2 * d + op.levels
  | .single h => Nat.le_of_succ_le h.height_le
  | .several h _ => by
    rw [Expression.height]
    exact h.height_le

end

theorem height_rooted_le (e : Expression) : e.rooted.height ≤ max 1 e.height := by
  cases e with
  | leaf l => exact Nat.le_max_left _ _
  | compound op es => exact Nat.le_max_right _ _

/-! ## 3. Expressions that were read -/

/-- **What every expression looks like that tokens spell** under the nesting limit `max`. Its root
    is a compound; every compound has several operands and every leaf has a pattern, except that
    the whole may be `AND` over one leaf; its leaves are what the leaf tokens stand for, in their
    order; and no more than `2 * (max + 1)` compounds stand inside one another, so no walk over it
    comes further down than that. -/
theorem ofTokens_shape {max : Nat} {ts : List Token} {e : Expression}
    (h : Expression.ofTokens max ts = .ok e) :
    (∃ op es, e = .compound op es) ∧
      (e.WellShaped ∨ ∃ l, e = .compound .and [.leaf l]) ∧
      (∀ l ∈ e.leaves, l.pattern ≠ "") ∧
      (ts.filterMap Token.raw?).map Leaf.ofRaw = e.leaves.map .ok ∧
      e.height ≤ 2 * (max + 1) ∧
      ∀ path n, e.node? path = some n → path.length ≤ 2 * (max + 1) := by
  obtain ⟨t, hread, rfl⟩ := map_eq_ok_iff.mp h
  have hchain := chain_of_readOperand hread
  have hleaves : leavesOfTokens ts = t.rooted.leaves.map .ok := by
    rw [leaves_rooted]
    exact hchain.leaves_eq
  have hheight : t.rooted.height ≤ 2 * (max + 1) := by
    have hbound : t.height ≤ 2 * max + 2 := hchain.height_le
    have hroot := height_rooted_le t
    omega
  have hshape : t.rooted.WellShaped ∨ ∃ l, t.rooted = .compound .and [.leaf l] := by
    cases t with
    | leaf l => exact .inr ⟨l, rfl⟩
    | compound op es => exact .inl hchain.writable.shaped
  refine ⟨exists_compound_rooted t, hshape, fun l hl => pattern_ne_of_leavesOfTokens hleaves hl,
    hleaves, hheight, ?_⟩
  intro path n hn
  have hwalk := length_le_height hn
  omega

/-- In `a OR ( b AND c OR d )` three compounds stand inside one another, under a limit of 1. -/
theorem ofTokens_shape_nested :
    ∃ e, Expression.ofTokens 1 [.leaf "a", .operator .or, .opening, .leaf "b", .operator .and,
        .leaf "regex: c", .operator .or, .leaf "d", .closing] = .ok e ∧
      [Leaf.ofRaw "a", Leaf.ofRaw "b", Leaf.ofRaw "regex: c", Leaf.ofRaw "d"] =
        e.leaves.map .ok ∧
      e.height = 3 ∧ ∀ path n, e.node? path = some n → path.length ≤ 4 := by
  have hread : Expression.ofTokens 1 [.leaf "a", .operator .or, .opening, .leaf "b",
      .operator .and, .leaf "regex: c", .operator .or, .leaf "d", .closing] =
        .ok (.compound .or [.leaf (.fresh .string "a"), .compound .or
          [.compound .and [.leaf (.fresh .string "b"), .leaf (.fresh .regex "c")],
            .leaf (.fresh .string "d")]]) := rfl
  obtain ⟨-, -, -, hleaves, -, hwalk⟩ := ofTokens_shape hread
  exact ⟨_, hread, hleaves, by simp [Expression.height, Expression.heightOfAll], hwalk⟩

end PageWatch.Pattern
