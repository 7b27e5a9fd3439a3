import PageWatch.Pattern.Outcome
import PageWatch.Pattern.Parse
import PageWatch.Watch.Complete

/-!
# Plans

A plan is a search made ready to be run on any number of pages. Main definitions: `Plan.ofSearch`
and `Plan.run`. **Every search becomes an expression**: a plain text or a single regular
expression is a leaf, so all three modes of search are evaluated alike. Running a plan gives it
back with the regular expressions it compiled on the way.

`searchText` reads an expression and evaluates it in one step.
-/

namespace PageWatch

open PageWatch.Pattern

/-- A search that is ready to run. -/
structure Plan where
  mode : SearchMode
  pattern : String
  expression : Expression
  deriving Inhabited

/-- The same search: what leaves remember does not count. -/
def Plan.same (a b : Plan) : Bool :=
  a.mode = b.mode && a.pattern = b.pattern && a.expression == b.expression

variable [Regex.Engine]

/-- The expression of a search. The rules decide whether regular expressions are compiled now or
    when they are first needed. -/
def Search.expression (s : Search) (rules : Rules) : Except WatchError Expression :=
  match s.mode with
  | .string => .ok (.leaf (.fresh .string s.pattern))
  | .regex =>
    let leaf := Expression.leaf (.fresh .regex s.pattern)
    if rules.compileAhead then
      match leaf.compile with
      | (.ok (), leaf) => .ok leaf
      | (.error e, _) => .error (.badRegex e)
    else .ok leaf
  | .compound =>
    match parse s.pattern rules with
    | .ok e => .ok e
    | .error e => .error (.badExpression e)

/-- **Makes a search ready**; rules that make no sense are refused first. -/
def Plan.ofSearch (s : Search) (rules : Rules) : Except WatchError Plan :=
  match rules.check with
  | .error e => .error (.badRules e)
  | .ok () => (s.expression rules).map fun e => ⟨s.mode, s.pattern, e⟩

/-- **The outcome of a plan on a page**, and the plan with what it compiled. -/
def Plan.run (p : Plan) (content : String) : Except EvalError Outcome × Plan :=
  let (result, e) := p.expression.evaluate content
  (result, { p with expression := e })

/-- Checks a watch and makes its search ready. The watch comes back with its defaults filled in,
    also if it is refused. -/
def Watch.plan (w : Watch) (rules : Rules) : Except WatchError Plan × Watch :=
  match w.check with
  | (.error e, w) => (.error e, w)
  | (.ok (), w) => (Plan.ofSearch w.search rules, w)

/-- Why a search of a text has no outcome: the pattern is no expression, or the expression has no
    value on the text. -/
inductive SearchError where
  | parse (e : ParseError)
  | eval (e : EvalError)
  deriving Repr, DecidableEq

/-- Reads an expression under the default rules and evaluates it on a text. -/
def searchText (pattern content : String) : Except SearchError Outcome :=
  match parse pattern {} with
  | .error e => .error (.parse e)
  | .ok e =>
    match (e.evaluate content).1 with
    | .ok o => .ok o
    | .error e => .error (.eval e)

end PageWatch
