import PageWatch.Pattern.Operator

/-!
# What can be wrong with a search expression

Every cause is a constructor with what it is about; the wording is in the `message` of its type.
Positions of tokens count from 0, positions of operands from 1.
-/

namespace PageWatch.Pattern

/-- A regular expression that cannot be compiled. -/
structure RegexError where
  pattern : String
  reason : String
  deriving Repr, DecidableEq, Inhabited

def RegexError.message (e : RegexError) : String :=
  "invalid regular expression '" ++ e.pattern ++ "': " ++ e.reason

/-- A quotation without an end: the whole text, the quote, and the byte it stands at. -/
structure UnterminatedQuote where
  pattern : String
  quote : Char
  start : Nat
  deriving Repr, DecidableEq

def UnterminatedQuote.message (e : UnterminatedQuote) : String :=
  "unterminated " ++ String.singleton e.quote ++ " quote starting at byte " ++ toString e.start ++
    " in '" ++ e.pattern ++ "'"

/-- Why a text is no search expression. -/
inductive ParseError where
  | empty
  | unterminatedQuote (e : UnterminatedQuote)
  | unclosedParenthesis (index : Nat)
  | unexpectedClosing (index : Nat)
  | emptyGroup (index : Nat)
  | missingOperand (operator : Operator) (index : Nat)
  | missingOperator (index : Nat)
  | emptyLeaf (raw : String)
  | nestingTooDeep (max : Nat)
  | badRegex (e : RegexError)
  deriving Repr, DecidableEq

def ParseError.message : ParseError → String
  | .empty => "pattern is empty"
  | .unterminatedQuote e => e.message
  | .unclosedParenthesis index =>
    "opening parenthesis at token " ++ toString index ++ " is never closed"
  | .unexpectedClosing index =>
    "closing parenthesis at token " ++ toString index ++ " has no matching opening parenthesis"
  | .emptyGroup index => "parenthesised group at token " ++ toString index ++ " is empty"
  | .missingOperand operator index =>
    "operator " ++ operator.word ++ " at token " ++ toString index ++ " is missing an operand"
  | .missingOperator index => "expected AND or OR before token " ++ toString index
  | .emptyLeaf raw => "leaf '" ++ raw ++ "' resolves to an empty pattern"
  | .nestingTooDeep max => "parentheses nested deeper than " ++ toString max ++ " levels"
  | .badRegex e => e.message

/-- Why an expression has no value on a text. `child` leads to the operand that failed. -/
inductive EvalError where
  | badRegex (e : RegexError)
  | emptyCompound (operator : Operator)
  | child (index : Nat) (source : EvalError)
  deriving Repr, DecidableEq, Inhabited

def EvalError.message : EvalError → String
  | .badRegex e => e.message
  | .emptyCompound operator => operator.word ++ " expression has no operands"
  | .child index source =>
    "error evaluating pattern element " ++ toString index ++ ": " ++ source.message

/-- The error at the end of the way through the operands. -/
def EvalError.cause : EvalError → EvalError
  | .child _ source => source.cause
  | e => e

end PageWatch.Pattern
