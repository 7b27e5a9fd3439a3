import PageWatch.Json.Writer
import PageWatch.Watch.Poll

/-!
# The text of an alert

What is sent: one text for all channels (`Watch.alertText`), and the form each kind of channel
wants it in. The text begins with the time in brackets. **Matches are listed only if the search
was found**, numbered from 1.
-/

namespace PageWatch

/-- The numbered lines of a list of matches; `number` is that of the first. -/
def matchLines (number : Nat) : List String → String
  | [] => ""
  | m :: rest => "\n  [" ++ toString number ++ "] " ++ m ++ matchLines (number + 1) rest

/-- The list of matches under an alert, if the search was found and there are any. -/
def matchList (result : PollResult) : String :=
  if result.found && !result.matched.isEmpty then
    "\n\nMatches found:" ++ matchLines 1 result.matched
  else ""

/-- **The text that is sent to every channel.** -/
def Watch.alertText (w : Watch) (result : PollResult) (timestamp : Nat) : String :=
  let time := "[" ++ toString timestamp ++ "] "
  match result.cause? with
  | some e => time ++ "Error monitoring " ++ w.url ++ ": " ++ e.message
  | none =>
    time ++ "Pattern '" ++ w.search.pattern ++ "' " ++
      (if result.found then "FOUND" else "NOT FOUND") ++ " on " ++ w.url ++ matchList result

/-- A message in the form that Discord takes. -/
def discordForm (message : String) : Json.Value := .object [("content", .string message)]

/-- A message in the form that Slack takes. -/
def slackForm (message : String) : Json.Value := .object [("text", .string message)]

/-- A message as mail: two header lines, an empty line, and the message. -/
def MailAccount.letter (a : MailAccount) (message : String) : String :=
  "To: " ++ a.recipient ++ "\r\nSubject: " ++ a.subject ++ "\r\n\r\n" ++ message

end PageWatch
