/-!
# Rules of reading

How deep parentheses may nest, and whether regular expressions are compiled while reading.
`Rules.check` refuses a depth of 0, under which no group could be read.
-/

namespace PageWatch.Pattern

/-- The rules that a search expression is read under. -/
structure Rules where
  maxNesting : Nat := 32
  compileAhead : Bool := true
  deriving Repr, DecidableEq, Inhabited

/-- Why rules are refused. -/
inductive RulesError where
  | nestingTooSmall (provided : Nat)
  deriving Repr, DecidableEq

def RulesError.message : RulesError → String
  | .nestingTooSmall provided =>
    "max_nesting_depth must be at least 1 (got " ++ toString provided ++ ")"

/-- Accepts rules that let parentheses nest at all. -/
def Rules.check (r : Rules) : Except RulesError Unit :=
  if r.maxNesting = 0 then .error (.nestingTooSmall 0) else .ok ()

/-- A change of one rule. -/
inductive RuleChange where
  | maxNesting (value : Nat)
  | compileAhead (value : Bool)
  deriving Repr, DecidableEq

/-- The rules with one of them changed. -/
def Rules.change (r : Rules) : RuleChange → Rules
  | .maxNesting value => { r with maxNesting := value }
  | .compileAhead value => { r with compileAhead := value }

end PageWatch.Pattern
