/-!
# Operators

The two operators of search expressions and the keywords they are spelled with.
-/

namespace PageWatch.Pattern

/-- How a compound expression combines its operands. -/
inductive Operator where
  | and
  | or
  deriving Repr, DecidableEq, Inhabited

/-- The keyword of an operator. -/
def Operator.word : Operator → String
  | .and => "AND"
  | .or => "OR"

end PageWatch.Pattern
