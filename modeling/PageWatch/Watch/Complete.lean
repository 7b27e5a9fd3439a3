import PageWatch.Pattern.Fault
import PageWatch.Pattern.Rules
import PageWatch.Text.Blank
import PageWatch.Watch.Basic

/-!
# Complete watches

A watch is complete if it names a page, a pattern and at least one channel, and every channel has
what it needs. Main definition: `Watch.check`, which gives the first fault in that order, and the
watch with the defaults for mail filled in. **Defaults are filled in as soon as the mail account
has passed**, also if a later channel fails.
-/

namespace PageWatch

open PageWatch.Pattern PageWatch.Text

/-- Why a watch is refused. -/
inductive WatchError where
  | noPage
  | noPattern
  | badExpression (e : ParseError)
  | badRegex (e : RegexError)
  | noChannel
  | mailLacks (field : String)
  | webhookLacksUrl (channel : String)
  | badRules (e : RulesError)
  deriving Repr, DecidableEq

def WatchError.message : WatchError → String
  | .noPage => "URL is required"
  | .noPattern => "search pattern is required"
  | .badExpression e => "invalid compound pattern: " ++ e.message
  | .badRegex e => "invalid regex pattern: " ++ e.message
  | .noChannel => "at least one notification method must be configured"
  | .mailLacks field => "email configuration is incomplete: " ++ field ++ " is required"
  | .webhookLacksUrl channel => channel ++ " webhook URL is required"
  | .badRules e => e.message

/-- The fields that mail cannot do without, by name. -/
def MailAccount.required (a : MailAccount) : List (String × String) :=
  [("smtp_host", a.host), ("username", a.username), ("password", a.password),
   ("from", a.sender), ("to", a.recipient)]

/-- The first field that mail lacks. -/
def MailAccount.lacks? (a : MailAccount) : Option String :=
  (a.required.find? fun (_, value) => value.isEmpty).map (·.1)

/-- The account with its defaults filled in. -/
def MailAccount.withDefaults (a : MailAccount) : MailAccount :=
  { a with
    port := if a.port = 0 then defaultMailPort else a.port
    subject := if a.subject.isEmpty then defaultMailSubject else a.subject }

/-- A webhook that is present needs an address. -/
def checkWebhook (channel : String) : Option Webhook → Except WatchError Unit
  | none => .ok ()
  | some w => if isAllBlank w.url then .error (.webhookLacksUrl channel) else .ok ()

/-- The checks of the webhooks. -/
def Channels.checkWebhooks (c : Channels) : Except WatchError Unit :=
  match checkWebhook "discord" c.discord with
  | .error e => .error e
  | .ok () => checkWebhook "slack" c.slack

/-- The checks of the channels, with the defaults for mail filled in. -/
def Channels.check (c : Channels) : Except WatchError Unit × Channels :=
  match c.email with
  | none => (c.checkWebhooks, c)
  | some a =>
    match a.lacks? with
    | some field => (.error (.mailLacks field), c)
    | none => (c.checkWebhooks, { c with email := some a.withDefaults })

/-- **The first fault of a watch, if it has one**, and the watch with the defaults for mail filled
    in. -/
def Watch.check (w : Watch) : Except WatchError Unit × Watch :=
  if isAllBlank w.url then (.error .noPage, w)
  else if w.search.pattern.isEmpty then (.error .noPattern, w)
  else if w.channels.isEmpty then (.error .noChannel, w)
  else
    let (result, channels) := w.channels.check
    (result, { w with channels := channels })

end PageWatch
