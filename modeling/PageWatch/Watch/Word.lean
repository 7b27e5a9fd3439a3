import PageWatch.Text.Blank
import PageWatch.Watch.Basic

/-!
# Words for choices

Three choices of a watch are written as words. Blanks around a word do not count, the empty word
stands for the default, and the words for the search mode and the page access may be spelled in
either case of ASCII; **the verdict that is worth an alert may not**. A word that is none of them
is given back in the error as it was.
-/

namespace PageWatch

open PageWatch.Text

/-- The text in lower case, as far as it is ASCII. -/
def lowered (s : String) : String := String.ofList (s.toList.map Char.toLower)

def SearchMode.word : SearchMode → String
  | .string => "string"
  | .regex => "regex"
  | .compound => "compound"

def SearchMode.ofWord (word : String) : Except String SearchMode :=
  let w := lowered (trimmed word)
  if w = "" ∨ w = "string" then .ok .string
  else if w = "regex" then .ok .regex
  else if w = "compound" then .ok .compound
  else .error ("unsupported search type '" ++ word ++ "'")

def AlertWhen.word : AlertWhen → String
  | .found => "found"
  | .notFound => "not_found"

def AlertWhen.ofWord (word : String) : Except String AlertWhen :=
  let w := trimmed word
  if w = "" ∨ w = "found" then .ok .found
  else if w = "not_found" then .ok .notFound
  else .error ("unsupported notify_on value '" ++ word ++ "'")

def PageAccess.word : PageAccess → String
  | .browser => "browser"
  | .http => "http"

def PageAccess.ofWord (word : String) : Except String PageAccess :=
  let w := lowered (trimmed word)
  if w = "" ∨ w = "browser" then .ok .browser
  else if w = "http" then .ok .http
  else .error ("unsupported fetch method '" ++ word ++ "'")

end PageWatch
