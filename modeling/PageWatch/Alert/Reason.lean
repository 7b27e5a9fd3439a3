import PageWatch.Watch.Poll

/-!
# When to alert, and why

A failed poll always alerts; any other one if its verdict is the one the watch waits for. Main
definitions: `AlertWhen.alerts`, and `AlertWhen.reason` for the `Reason` that is given.
-/

namespace PageWatch

/-- The poll alerts. -/
def AlertWhen.alerts (wanted : AlertWhen) (result : PollResult) : Bool :=
  if result.isFailed then true
  else
    match wanted with
    | .found => result.found
    | .notFound => !result.found

/-- Why a poll alerts. -/
inductive Reason where
  | failure
  | found
  | notFound
  | unknown
  deriving Repr, DecidableEq

def Reason.text : Reason → String
  | .failure => "fetch error occurred"
  | .found => "pattern found"
  | .notFound => "pattern not found"
  | .unknown => "unknown reason"

/-- The reason to give for a poll; of one that does not alert it is unknown. -/
def AlertWhen.reason (wanted : AlertWhen) (result : PollResult) : Reason :=
  if result.isFailed then .failure
  else
    match wanted, result.found with
    | .found, true => .found
    | .notFound, false => .notFound
    | _, _ => .unknown

end PageWatch
