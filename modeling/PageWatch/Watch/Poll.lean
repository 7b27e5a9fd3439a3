import PageWatch.Watch.Plan

/-!
# Polls

A poll gets the page and runs the plan on it. It ends with the outcome of the search, or it fails
because the page could not be had or the search has no value on it. Main definitions:
`PollResult` and `Plan.poll`.
-/

namespace PageWatch

open PageWatch.Pattern

/-- Why a page could not be had. -/
inductive PageError where
  | request (url text : String)
  | status (url : String) (code : Nat)
  | extraction (text : String)
  deriving Repr, DecidableEq

def PageError.message : PageError → String
  | .request url text => "failed to fetch URL '" ++ url ++ "': " ++ text
  | .status url code => "HTTP " ++ toString code ++ " from '" ++ url ++ "'"
  | .extraction text => "content extraction failed: " ++ text

/-- Why a poll failed. -/
inductive PollError where
  | page (e : PageError)
  | search (e : EvalError)
  deriving Repr, DecidableEq

def PollError.message : PollError → String
  | .page e => e.message
  | .search e => "search failed: " ++ e.message

/-- How a poll ended. -/
inductive PollResult where
  | verdict (o : Outcome)
  | failed (e : PollError)
  deriving Repr, DecidableEq

namespace PollResult

/-- The poll failed. -/
def isFailed : PollResult → Bool
  | .verdict _ => false
  | .failed _ => true

/-- The search was found; a failed poll found nothing. -/
def found : PollResult → Bool
  | .verdict o => o.found
  | .failed _ => false

/-- What was matched; a failed poll matched nothing. -/
def matched : PollResult → List String
  | .verdict o => o.matched
  | .failed _ => []

/-- Why the poll failed. -/
def cause? : PollResult → Option PollError
  | .verdict _ => none
  | .failed e => some e

end PollResult

/-- How the page of a watch is had: its text, as far as the watch wants it searched. -/
abbrev PageFetch := Watch → Except PageError String

variable [Regex.Engine]

/-- **The result of one poll**, and the plan with what it compiled. -/
def Plan.poll (p : Plan) (watch : Watch) (fetch : PageFetch) : PollResult × Plan :=
  match fetch watch with
  | .error e => (.failed (.page e), p)
  | .ok content =>
    match p.run content with
    | (.ok o, p) => (.verdict o, p)
    | (.error e, p) => (.failed (.search e), p)

end PageWatch
