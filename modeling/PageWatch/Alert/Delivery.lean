/-!
# Delivering a message

Main definition: `sendToAll`, which sends a message to every channel in order. **A channel that
fails does not keep the message from the others.** Beside what became of the message it gives
the log of what was sent where.
-/

namespace PageWatch

/-- Why a channel did not take a message. -/
inductive ChannelError where
  | transport (channel text : String)
  | rejected (channel : String) (status : Nat)
  deriving Repr, DecidableEq

def ChannelError.message : ChannelError → String
  | .transport channel text => channel ++ " notification failed: " ++ text
  | .rejected channel status => channel ++ " webhook returned status " ++ toString status

/-- A channel that takes messages. -/
structure Channel where
  name : String
  send : String → Except ChannelError Unit

/-- What became of a message: the channels that took it, and the errors of the others. -/
structure Delivery where
  taken : List String
  failures : List ChannelError
  deriving Repr, DecidableEq

/-- Every channel took the message. -/
def Delivery.reachedAll (d : Delivery) : Bool := d.failures.isEmpty

/-- A message that was handed to a channel. -/
structure Sent where
  channel : String
  message : String
  deriving Repr, DecidableEq

/-- Adds the answer of one channel in front of those of the later ones. -/
def Delivery.add (channel : String) (answer : Except ChannelError Unit) (d : Delivery) :
    Delivery :=
  match answer with
  | .ok () => { d with taken := channel :: d.taken }
  | .error e => { d with failures := e :: d.failures }

/-- **Sends a message to every channel in order**, and gives what became of it and the log. -/
def sendToAll (message : String) : List Channel → Delivery × List Sent
  | [] => (⟨[], []⟩, [])
  | c :: rest =>
    let answer := c.send message
    let (delivery, log) := sendToAll message rest
    (delivery.add c.name answer, ⟨c.name, message⟩ :: log)

end PageWatch
