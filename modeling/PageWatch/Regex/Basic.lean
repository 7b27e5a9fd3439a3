import PageWatch.Regex.Engine
import PageWatch.Regex.Flags
import PageWatch.Regex.Footprint
import PageWatch.Regex.Reader
import PageWatch.Regex.Search

/-!
# The engine

The engine that the library runs with: a regular expression is read, translated under its flags
into a program, and the program is followed over the text. Main definition: `Regex.compile?`.
-/

namespace PageWatch.Regex

/-- A program as a compiled regular expression: all its matches, without overlap. -/
def Program.toRegex (p : Program) : Regex where
  findAll content := (p.allMatches content.toList).map String.ofList
  findAll_infix content := by
    rw [List.forall_mem_map]
    intro piece hpiece
    rw [String.toList_ofList]
    exact p.allMatches_infix content.toList piece hpiece

/-- Reads a regular expression and makes it ready; `none` if it is not spelled rightly, means
    nothing under its flags, or is too large. -/
def compile? (pattern : String) : Option Regex :=
  match Node.read pattern.toList with
  | none => none
  | some node =>
    match Expr.ofNode? node with
    | none => none
    | some e => if e.fits then some (Program.ofExpr e).toRegex else none

/-- The reason given with a regular expression that cannot be compiled. What exactly is wrong with
    it is not told. -/
def refusal : String := "<regex error>"

instance : Engine where
  compile pattern :=
    match compile? pattern with
    | some r => .ok r
    | none => .error refusal

end PageWatch.Regex
