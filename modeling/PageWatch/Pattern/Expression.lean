import PageWatch.Pattern.Leaf
import PageWatch.Text.Quoted

/-!
# Search expressions

An expression is a leaf, or an operator over any number of operands. Main definitions:
`Expression`, its `leaves` from left to right, comparison (`same`) and the shown form
(`display`), both blind to what leaves remember, and `compile`, which compiles the regular
expressions of all leaves and **stops at the first that cannot be compiled**.
-/

namespace PageWatch.Pattern

open PageWatch.Text

/-- A search expression. -/
inductive Expression where
  | leaf (l : Leaf)
  | compound (op : Operator) (children : List Expression)
  deriving Inhabited

/-! ## 1. Leaves and comparison -/

mutual

/-- The leaves from left to right. -/
def Expression.leaves : Expression → List Leaf
  | .leaf l => [l]
  | .compound _ children => Expression.leavesOfAll children

/-- The leaves of all expressions of a list. -/
def Expression.leavesOfAll : List Expression → List Leaf
  | [] => []
  | e :: rest => e.leaves ++ Expression.leavesOfAll rest

end

mutual

/-- The expression with nothing remembered. -/
def Expression.forget : Expression → Expression
  | .leaf l => .leaf l.forget
  | .compound op children => .compound op (Expression.forgetAll children)

/-- All expressions of a list with nothing remembered. -/
def Expression.forgetAll : List Expression → List Expression
  | [] => []
  | e :: rest => e.forget :: Expression.forgetAll rest

end

mutual

/-- The same tree: what leaves remember does not count. -/
def Expression.same : Expression → Expression → Bool
  | .leaf a, .leaf b => a.same b
  | .compound op children, .compound op' children' =>
    op = op' && Expression.sameAll children children'
  | .leaf _, .compound _ _ => false
  | .compound _ _, .leaf _ => false

/-- The same trees in the same order. -/
def Expression.sameAll : List Expression → List Expression → Bool
  | [], [] => true
  | a :: as, b :: bs => a.same b && Expression.sameAll as bs
  | [], _ :: _ => false
  | _ :: _, [] => false

end

instance : BEq Expression := ⟨Expression.same⟩

/-- An expression in which a lone leaf is the only operand of `AND`. -/
def Expression.rooted : Expression → Expression
  | .leaf l => .compound .and [.leaf l]
  | .compound op children => .compound op children

/-! ## 2. The shown form -/

mutual

/-- The shown form of an expression: `AND(string:"a", OR(…))`. -/
def Expression.display : Expression → String
  | .leaf l => l.kind.name ++ ":" ++ Quoted.quote l.pattern
  | .compound op children => op.word ++ "(" ++ Expression.displayAll children ++ ")"

/-- The shown forms of operands, with commas between them. -/
def Expression.displayAll : List Expression → String
  | [] => ""
  | e :: rest => e.display ++ Expression.displayMore rest

/-- The shown forms of further operands, each after a comma. -/
def Expression.displayMore : List Expression → String
  | [] => ""
  | e :: rest => ", " ++ e.display ++ Expression.displayMore rest

end

/-! ## 3. Compiling ahead -/

variable [Regex.Engine]

/-- Compiles the regular expression of a leaf that has one. -/
def Leaf.compile (l : Leaf) : Except RegexError Unit × Leaf :=
  match l.kind with
  | .string => (.ok (), l)
  | .regex => (l.regex.map fun _ => (), l.remember)

mutual

/-- Compiles the regular expressions of the leaves from left to right, up to the first that
    cannot be compiled. Gives the expression with what was compiled so far. -/
def Expression.compile : Expression → Except RegexError Unit × Expression
  | .leaf l => (l.compile.1, .leaf l.compile.2)
  | .compound op children =>
    let (result, children) := Expression.compileAll children
    (result, .compound op children)

/-- As `Expression.compile`, over a list of expressions. -/
def Expression.compileAll : List Expression → Except RegexError Unit × List Expression
  | [] => (.ok (), [])
  | e :: rest =>
    match e.compile with
    | (.error err, e) => (.error err, e :: rest)
    | (.ok (), e) =>
      let (result, rest) := Expression.compileAll rest
      (result, e :: rest)

end

end PageWatch.Pattern
