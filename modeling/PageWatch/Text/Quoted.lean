import PageWatch.Unicode.Latest

/-!
# Quoted text

A text between double quotes in which every character can be seen: quotes, backslashes and what
does not show by itself are escaped. Main definition: `Quoted.quote`. An apostrophe is left as it
is. **A combining character is escaped**, because it would be drawn on the character before it.
-/

namespace PageWatch.Text.Quoted

open PageWatch.Unicode

/-- The characters that are escaped because they are part of the one before them. The two voicing
    marks of half width are not: they are letters that take a place of their own. -/
def combining : CharSet := extendingLatest.diff (categorySets.get "lm")

/-- The characters shown as they are: assigned ones, but no control or format character, no
    private one, no blank but the space, no filler that is drawn as nothing, and none that is part
    of the one before it. -/
def shown : CharSet :=
  ((assignedLatest.diff (categoryUnion ["cc", "cf", "co", "zl", "zp", "zs"])).union
    (CharSet.singleton ' ')).diff
    (combining.union (propertySets.get "defaultignorablecodepoint"))

/-- A character by its code: lower-case hexadecimal digits in braces. -/
def byCode (c : Char) : List Char :=
  '\\' :: 'u' :: '{' :: (Nat.toDigits 16 c.toNat ++ ['}'])

/-- One character between quotes. -/
def escape (c : Char) : List Char :=
  if c = '"' then ['\\', '"']
  else if c = '\\' then ['\\', '\\']
  else if c = '\t' then ['\\', 't']
  else if c = '\r' then ['\\', 'r']
  else if c = '\n' then ['\\', 'n']
  else if c = '\x00' then ['\\', '0']
  else if shown.contains c then [c]
  else byCode c

/-- The characters of a quoted text. -/
def encode (cs : List Char) : List Char := '"' :: (cs.flatMap escape ++ ['"'])

/-- **The text between double quotes, with escapes.** -/
def quote (s : String) : String := String.ofList (encode s.toList)

end PageWatch.Text.Quoted
