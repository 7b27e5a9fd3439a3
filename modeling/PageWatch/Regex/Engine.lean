/-!
# Engines for regular expressions

Searching does not depend on how regular expressions are read and matched. **All that is asked of
an engine is in this module**: it compiles a pattern or tells why it cannot, both by the pattern
alone, and what a compiled expression matches is cut out of the text. The rest of the library is
written for any engine; the one it runs with is in `PageWatch.Regex.Basic`.
-/

namespace PageWatch

/-- **A compiled regular expression**: it gives the texts of its matches in a text, from left to
    right. -/
structure Regex where
  findAll : (content : String) → List String
  findAll_infix : ∀ content, ∀ m ∈ findAll content, m.toList <:+: content.toList

/-- **An engine** compiles regular expressions, or tells what is wrong with them. -/
class Regex.Engine where
  compile : (pattern : String) → Except String Regex

end PageWatch
