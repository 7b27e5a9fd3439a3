import PageWatch.Pattern.Expression
import PageWatch.Text.Utf8

/-!
# Evaluating expressions

The outcome of an expression on a text is a verdict and the list of what its leaves matched.
Main definition: `Expression.evaluate`. **Every operand is evaluated**, even when the verdict is
settled, so the list holds what every leaf matched on its own. The first error ends the walk;
the leaves before it keep what they compiled.
-/

namespace PageWatch.Pattern

open PageWatch.Text

/-- A verdict, and the texts that leaves matched. -/
structure Outcome where
  found : Bool
  matched : List String
  deriving Repr, DecidableEq, Inhabited

variable [Regex.Engine]

/-- What a leaf matches: a string once, if it occurs; of a regular expression all matches. -/
def Leaf.matched (l : Leaf) (content : String) : Except EvalError (List String) :=
  match l.kind with
  | .string => .ok (if occursIn l.pattern content then [l.pattern] else [])
  | .regex =>
    match l.regex with
    | .ok r => .ok (r.findAll content)
    | .error e => .error (.badRegex e)

/-- The outcome of a leaf: it is found if it matches something. -/
def Leaf.evaluate (l : Leaf) (content : String) : Except EvalError Outcome × Leaf :=
  ((l.matched content).map fun ms => ⟨!ms.isEmpty, ms⟩, l.compile.2)

/-- The verdict of an operator on the verdicts of its operands. -/
def Operator.verdict : Operator → List Bool → Bool
  | .and, vs => vs.all id
  | .or, vs => vs.any id

mutual

/-- **The outcome of an expression on a text**, and the expression with what was compiled on the
    way. An operator without operands has no outcome. -/
def Expression.evaluate (content : String) : Expression → Except EvalError Outcome × Expression
  | .leaf l => ((l.evaluate content).1, .leaf (l.evaluate content).2)
  | .compound op [] => (.error (.emptyCompound op), .compound op [])
  | .compound op (e :: rest) =>
    let (result, children) := Expression.evaluateAll content 1 (e :: rest)
    (result.map fun (vs, ms) => ⟨op.verdict vs, ms⟩, .compound op children)

/-- The verdicts of operands and all that they matched. `index` is the position of the first. -/
def Expression.evaluateAll (content : String) (index : Nat) :
    List Expression → Except EvalError (List Bool × List String) × List Expression
  | [] => (.ok ([], []), [])
  | e :: rest =>
    match e.evaluate content with
    | (.error err, e) => (.error (.child index err), e :: rest)
    | (.ok o, e) =>
      let (result, rest) := Expression.evaluateAll content (index + 1) rest
      (result.map fun (vs, ms) => (o.found :: vs, o.matched ++ ms), e :: rest)

end

end PageWatch.Pattern
