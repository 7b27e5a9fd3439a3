import PageWatch.Pattern.Expression
import PageWatch.Pattern.Rules
import PageWatch.Pattern.Token

/-!
# Expressions from tokens

`AND` binds tighter than `OR`, and parentheses bind tightest. Operands that the same operator
joins become the operands of one compound. Main definitions: `Expression.ofTokens` and `parse`.

Tokens are read once, from left to right, by two functions that take turns: one stands where an
operand has to come, the other behind an operand. What is open around them is a list of groups;
**its length is the nesting that the rules bound**. So the first token that cannot be right is
met first, and the error is about it.
-/

namespace PageWatch.Pattern

/-! ## 1. What is under way -/

/-- The operands read so far at one level of parentheses, the last ones first: those of `OR`, and
    those of the chain of `AND` that is being read. -/
structure Level where
  ors : List Expression
  ands : List Expression
  deriving Inhabited

/-- No operands yet. -/
def Level.start : Level := ⟨[], []⟩

/-- One operand stands for itself; more are the operands of one compound. -/
def Expression.join (op : Operator) : List Expression → Expression
  | [e] => e
  | es => .compound op es

/-- One more operand. -/
def Level.push (level : Level) (e : Expression) : Level := { level with ands := e :: level.ands }

/-- The chain of `AND` ends: it is an operand of `OR`. -/
def Level.endChain (level : Level) : Level :=
  { ors := Expression.join .and level.ands.reverse :: level.ors, ands := [] }

/-- The expression of a level that is complete. -/
def Level.finish (level : Level) : Expression := Expression.join .or level.endChain.ors.reverse

/-- A parenthesis that is open: where it stands, and the level around it. -/
structure Group where
  index : Nat
  outer : Level
  deriving Inhabited

/-- What stands in front of an operand: nothing, an open parenthesis or an operator, with its
    position. -/
inductive Before where
  | nothing
  | opening (index : Nat)
  | operator (op : Operator) (index : Nat)
  deriving Repr, DecidableEq

/-- The text ends where an operand has to come. -/
def Before.faultAtEnd : Before → ParseError
  | .nothing => .empty
  | .opening index => .unclosedParenthesis index
  | .operator op index => .missingOperand op index

/-- A group is closed at position `i`, where an operand has to come. -/
def Before.faultAtClosing (i : Nat) : Before → ParseError
  | .nothing => .unexpectedClosing i
  | .opening index => .emptyGroup index
  | .operator op index => .missingOperand op index

/-- An operator stands at position `i`, where an operand has to come. -/
def Before.faultAtOperator (op : Operator) (i : Nat) : Before → ParseError
  | .operator op index => .missingOperand op index
  | _ => .missingOperand op i

/-! ## 2. Reading -/

mutual

/-- Reads on where an operand has to come; `i` is the position of the next token. -/
def readOperand (max : Nat) (before : Before) (groups : List Group) (level : Level) (i : Nat) :
    List Token → Except ParseError Expression
  | [] => .error before.faultAtEnd
  | .opening :: rest =>
    if max ≤ groups.length then .error (.nestingTooDeep max)
    else readOperand max (.opening i) (⟨i, level⟩ :: groups) .start (i + 1) rest
  | .closing :: _ => .error (before.faultAtClosing i)
  | .operator op :: _ => .error (before.faultAtOperator op i)
  | .leaf raw :: rest =>
    match Leaf.ofRaw raw with
    | .error e => .error e
    | .ok l => readOperator max groups (level.push (.leaf l)) (i + 1) rest

/-- Reads on behind an operand; `i` is the position of the next token. -/
def readOperator (max : Nat) (groups : List Group) (level : Level) (i : Nat) :
    List Token → Except ParseError Expression
  | [] =>
    match groups with
    | [] => .ok level.finish
    | g :: _ => .error (.unclosedParenthesis g.index)
  | .operator .and :: rest => readOperand max (.operator .and i) groups level (i + 1) rest
  | .operator .or :: rest => readOperand max (.operator .or i) groups level.endChain (i + 1) rest
  | .closing :: rest =>
    match groups with
    | [] => .error (.unexpectedClosing i)
    | g :: groups => readOperator max groups (g.outer.push level.finish) (i + 1) rest
  | .opening :: _ => .error (.missingOperator i)
  | .leaf _ :: _ => .error (.missingOperator i)

end

/-- **The expression that tokens spell**, with parentheses nested at most `max` deep. Nothing is
    compiled. -/
def Expression.ofTokens (max : Nat) (tokens : List Token) : Except ParseError Expression :=
  (readOperand max .nothing [] .start 0 tokens).map Expression.rooted

variable [Regex.Engine]

/-- **The expression that a text spells.** If the rules ask for it, regular expressions are
    compiled, and the first that cannot be is an error. -/
def parse (pattern : String) (rules : Rules) : Except ParseError Expression :=
  match tokenize pattern with
  | .error e => .error (.unterminatedQuote e)
  | .ok tokens =>
    match Expression.ofTokens rules.maxNesting tokens with
    | .error e => .error e
    | .ok e =>
      if rules.compileAhead then
        match e.compile with
        | (.ok (), e) => .ok e
        | (.error err, _) => .error (.badRegex err)
      else .ok e

end PageWatch.Pattern
