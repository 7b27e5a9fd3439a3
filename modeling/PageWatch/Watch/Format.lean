import PageWatch.Json.Reader
import PageWatch.Json.Writer
import PageWatch.Watch.Word

/-!
# Watches as JSON

For a watch and each of its parts, the value it is written as (`toJson`) and the reader that
takes it back (`reader`). Writing puts the fields in one fixed order and leaves out an empty
`xpath` and absent channels; **reading gives what is left out its default**. Only `null` may
stand for an absent channel, and nowhere else.
-/

namespace PageWatch

open PageWatch.Json

/-! ## 1. Choices -/

def SearchMode.toJson (m : SearchMode) : Value := .string m.word

def SearchMode.reader : Reader SearchMode := readConverted SearchMode.ofWord

def AlertWhen.toJson (a : AlertWhen) : Value := .string a.word

def AlertWhen.reader : Reader AlertWhen := readConverted AlertWhen.ofWord

def PageAccess.toJson (a : PageAccess) : Value := .string a.word

def PageAccess.reader : Reader PageAccess := readConverted PageAccess.ofWord

/-! ## 2. Searches -/

def Search.toJson (s : Search) : Value :=
  .object <|
    [("type", s.mode.toJson), ("pattern", .string s.pattern)] ++
    (if s.xpath.isEmpty then [] else [("xpath", .string s.xpath)]) ++
    [("notify_on", s.alertWhen.toJson)]

def Search.fields : List (StructField Search) :=
  [.of "type" SearchMode.reader fun m s => { s with mode := m },
   .of "pattern" readString fun t s => { s with pattern := t },
   .of "xpath" readString fun t s => { s with xpath := t },
   .of "notify_on" AlertWhen.reader fun a s => { s with alertWhen := a }]

def Search.reader : Reader Search :=
  readStructWithDefaults "struct SearchConfig" Search.fields {}

/-! ## 3. Channels -/

def MailAccount.toJson (a : MailAccount) : Value :=
  .object
    [("smtp_host", .string a.host), ("smtp_port", .natural a.port.toNat),
     ("username", .string a.username), ("password", .string a.password),
     ("from", .string a.sender), ("to", .string a.recipient), ("subject", .string a.subject)]

/-- Reads a port. -/
def readPort : Reader UInt16 := fun cs =>
  (readNatural (UInt16.size - 1) "u16" cs).map fun (n, rest) => (n.toUInt16, rest)

def MailAccount.fields : List (StructField MailAccount) :=
  [.of "smtp_host" readString fun t a => { a with host := t },
   .of "smtp_port" readPort fun n a => { a with port := n },
   .of "username" readString fun t a => { a with username := t },
   .of "password" readString fun t a => { a with password := t },
   .of "from" readString fun t a => { a with sender := t },
   .of "to" readString fun t a => { a with recipient := t },
   .of "subject" readString fun t a => { a with subject := t }]

def MailAccount.reader : Reader MailAccount :=
  readStructWithDefaults "struct EmailConfig" MailAccount.fields {}

def Webhook.toJson (w : Webhook) : Value := .object [("webhook_url", .string w.url)]

def Webhook.fields : List (StructField Webhook) :=
  [.of "webhook_url" readString fun t w => { w with url := t }]

def Webhook.reader : Reader Webhook :=
  readStructWithDefaults "struct WebhookConfig" Webhook.fields {}

/-- A member for a value that may be absent: nothing is written then. -/
def presentMember {α : Type} (name : String) (toJson : α → Value) :
    Option α → List (String × Value)
  | none => []
  | some a => [(name, toJson a)]

def Channels.toJson (c : Channels) : Value :=
  .object <|
    presentMember "email" MailAccount.toJson c.email ++
    presentMember "discord" Webhook.toJson c.discord ++
    presentMember "slack" Webhook.toJson c.slack

def Channels.fields : List (StructField Channels) :=
  [.of "email" (readOptional MailAccount.reader) fun a c => { c with email := a },
   .of "discord" (readOptional Webhook.reader) fun w c => { c with discord := w },
   .of "slack" (readOptional Webhook.reader) fun w c => { c with slack := w }]

def Channels.reader : Reader Channels :=
  readStructWithDefaults "struct Notifications" Channels.fields {}

/-! ## 4. Watches -/

def Watch.toJson (w : Watch) : Value :=
  .object
    [("url", .string w.url), ("search", w.search.toJson),
     ("notifications", w.channels.toJson), ("interval", .natural w.interval.toNat),
     ("fetch_method", w.access.toJson)]

/-- Reads an interval. -/
def readInterval : Reader UInt64 := fun cs =>
  (readNatural maxWord "u64" cs).map fun (n, rest) => (n.toUInt64, rest)

def Watch.fields : List (StructField Watch) :=
  [.of "url" readString fun t w => { w with url := t },
   .of "search" Search.reader fun s w => { w with search := s },
   .of "notifications" Channels.reader fun c w => { w with channels := c },
   .of "interval" readInterval fun n w => { w with interval := n },
   .of "fetch_method" PageAccess.reader fun a w => { w with access := a }]

def Watch.reader : Reader Watch := readStructWithDefaults "struct MonitorConfig" Watch.fields {}

/-- The text of a watch. -/
def Watch.render (w : Watch) : String := w.toJson.render

/-- **The watch that a text holds.** -/
def Watch.ofText (text : String) : Except Failure Watch := readAll Watch.reader text

/-- What is told about a text that is JSON but holds no watch. -/
def mismatchMessage (m : Mismatch) : String := "failed to parse config: " ++ m.message

end PageWatch
