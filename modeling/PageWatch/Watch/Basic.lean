/-!
# Watches

A watch says which page to look at, what to search it for, whom to tell and how often to look.
Main definition: `Watch`. Every field has a default, and an interval of 0 seconds stands for the
default period.
-/

namespace PageWatch

/-- How the pattern of a search is understood: as one text, as one regular expression, or as a
    search expression. -/
inductive SearchMode where
  | string
  | regex
  | compound
  deriving Repr, DecidableEq, Inhabited

/-- The verdict that is worth an alert. -/
inductive AlertWhen where
  | found
  | notFound
  deriving Repr, DecidableEq, Inhabited

/-- How the page is to be had. -/
inductive PageAccess where
  | browser
  | http
  deriving Repr, DecidableEq, Inhabited

/-- What to search for. `xpath` is for whoever fetches the page: it restricts the search to one
    element. -/
structure Search where
  mode : SearchMode := .string
  pattern : String := ""
  xpath : String := ""
  alertWhen : AlertWhen := .found
  deriving Repr, DecidableEq, Inhabited

/-- From where and to whom mail is sent. -/
structure MailAccount where
  host : String := ""
  port : UInt16 := 0
  username : String := ""
  password : String := ""
  sender : String := ""
  recipient : String := ""
  subject : String := ""
  deriving Repr, DecidableEq, Inhabited

/-- Where a message is posted. -/
structure Webhook where
  url : String := ""
  deriving Repr, DecidableEq, Inhabited

/-- Whom to tell. -/
structure Channels where
  email : Option MailAccount := none
  discord : Option Webhook := none
  slack : Option Webhook := none
  deriving Repr, DecidableEq, Inhabited

/-- Nobody is to be told. -/
def Channels.isEmpty (c : Channels) : Bool :=
  c.email.isNone && c.discord.isNone && c.slack.isNone

/-- A page, a search, the channels to tell, and how often to look. -/
structure Watch where
  url : String := ""
  search : Search := {}
  channels : Channels := {}
  interval : UInt64 := 0
  access : PageAccess := .browser
  deriving Repr, DecidableEq, Inhabited

/-- The seconds between polls where a watch leaves them open. -/
def defaultPeriod : UInt64 := 300

/-- The port for mail where an account leaves it open. -/
def defaultMailPort : UInt16 := 587

/-- The subject of mail where an account leaves it open. -/
def defaultMailSubject : String := "UpToDate Alert!"

/-- The seconds between polls. -/
def Watch.period (w : Watch) : UInt64 := if w.interval = 0 then defaultPeriod else w.interval

end PageWatch
