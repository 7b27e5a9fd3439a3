import PageWatch.Alert.Delivery
import PageWatch.Alert.Reason
import PageWatch.Alert.Text
import PageWatch.Regex.Basic

/-!
# Monitors

A monitor holds a checked watch and the plan made from its search, and polls with them. Main
definitions: `Monitor.start`, `Monitor.replace`, `Monitor.poll` and `Monitor.round`.

* Watch and plan are replaced together or not at all: a replacement that is refused changes
  nothing.
* A monitor may be given another watch while its page is being fetched (`Visit.replacement`).
  **The poll goes on with the watch and the plan it began with**, and what its plan compiles is
  lost with them.

Regular expressions are compiled by any engine; the one of `PageWatch.Regex.Basic` is at hand.
-/

namespace PageWatch

open PageWatch.Pattern

/-- A monitor: the rules that searches are read under, a checked watch, and its plan. -/
structure Monitor where
  rules : Rules
  watch : Watch
  plan : Plan
  deriving Inhabited

/-- What happens during one poll: the page that is had, and a watch that the monitor is given
    meanwhile. -/
structure Visit where
  fetch : PageFetch
  replacement : Option Watch := none

/-- What the channels were told in a round, and what came of it. -/
structure Notice where
  reason : Reason
  message : String
  delivery : Delivery
  deriving Repr, DecidableEq

/-- How a round ended: the result of its poll, the notice if the watch asked for one, and the log
    of what was sent. -/
structure Round where
  result : PollResult
  notice : Option Notice
  sent : List Sent
  deriving Repr, DecidableEq

namespace Monitor

variable [Regex.Engine]

/-- **A monitor for a watch**, which is checked and made ready first. -/
def start (watch : Watch) (rules : Rules) : Except WatchError Monitor :=
  match watch.plan rules with
  | (.ok plan, watch) => .ok ⟨rules, watch, plan⟩
  | (.error e, _) => .error e

/-- The monitor with another watch, under the same rules. -/
def replace (m : Monitor) (watch : Watch) : Except WatchError Monitor := start watch m.rules

/-- The monitor that a replacement during a poll left, if it was accepted. -/
def replacedBy (m : Monitor) (v : Visit) : Option Monitor :=
  v.replacement.bind fun watch => (m.replace watch).toOption

/-- **Polls once**, without telling anybody, and gives the monitor afterwards. -/
def poll (m : Monitor) (v : Visit) : PollResult × Monitor :=
  let (result, plan) := m.plan.poll m.watch v.fetch
  (result, (m.replacedBy v).getD { m with plan := plan })

/-- **Polls once and tells every channel** if the watch asks for it. -/
def round (m : Monitor) (v : Visit) (channels : List Channel) (timestamp : Nat) :
    Round × Monitor :=
  let (result, after) := m.poll v
  let wanted := m.watch.search.alertWhen
  if wanted.alerts result then
    let message := m.watch.alertText result timestamp
    let (delivery, sent) := sendToAll message channels
    (⟨result, some ⟨wanted.reason result, message, delivery⟩, sent⟩, after)
  else (⟨result, none, []⟩, after)

end Monitor

end PageWatch
