/-!
# Quotations in search expressions

A quotation runs from a quote to the next one of its kind that is not escaped; a backslash
escapes whatever follows it. Two functions look at quotations: `closeQuote`, which finds the end
of one in a longer text, and `unquoted?`, which gives what a text that is one whole quotation
stands for.
-/

namespace PageWatch.Pattern

/-- A character that may open a quotation. -/
def isQuote (c : Char) : Bool := c = '"' || c = '\''

/-- Cuts a text after the first `q` that is not escaped; `none` if there is none. The text begins
    behind the opening quote. -/
def closeQuote (q : Char) : List Char → Option (List Char × List Char)
  | [] => none
  | ['\\'] => none
  | '\\' :: c :: rest => (closeQuote q rest).map fun (body, after) => ('\\' :: c :: body, after)
  | c :: rest =>
    if c = q then some ([c], rest)
    else (closeQuote q rest).map fun (body, after) => (c :: body, after)

/-- What an escaped character stands for: a line end, a tab, or itself. -/
def unescape (c : Char) : Char := if c = 'n' then '\n' else if c = 't' then '\t' else c

/-- The text that the inside of a quotation stands for; `none` if it holds a lone `q` or ends in
    the middle of an escape. -/
def decodeBody (q : Char) : List Char → Option (List Char)
  | [] => some []
  | ['\\'] => none
  | '\\' :: c :: rest => (decodeBody q rest).map (unescape c :: ·)
  | c :: rest => if c = q then none else (decodeBody q rest).map (c :: ·)

/-- **What one whole quotation stands for**; `none` for any other text. Both quotes are taken off
    before the inside is looked at. -/
def unquotedChars? : List Char → Option (List Char)
  | [] => none
  | q :: rest =>
    if isQuote q && rest.getLast? = some q then decodeBody q rest.dropLast else none

/-- As `unquotedChars?`, on texts. -/
def unquoted? (text : String) : Option String := (unquotedChars? text.toList).map String.ofList

end PageWatch.Pattern
