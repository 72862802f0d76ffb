import DepGraph.Json.Printer
import DepGraph.Log.Level
import DepGraph.Text.Blank
import DepGraph.Text.Replace

/-!
# Log lines

A log line is an object on a line of its own: the fields of a report, its name, the logger, the
severity and the time. Credentials never reach it: the values of fields whose name says that they
are secret are masked, and in every text a login in front of the host of an address is left out.
-/

namespace DepGraph.Log

/-! ### Credentials -/

/-- The names of fields whose values are masked. -/
def secretFields : List String := ["password", "secret", "token", "auth"]

/-- What stands in place of a masked value. -/
def mask : Json := .ofString "[FILTERED]"

/-- The fields with the values of the secret ones **masked**. -/
def maskSecrets (fields : Json.Fields) : Json.Fields :=
  fields.map fun f => if secretFields.contains (Text.display f.1) then (f.1, mask) else f

/-- Whether a code point is this character. -/
def isChar (c : Char) (p : CodePoint) : Bool := p.val == c.toNat

/-- Whether a code point satisfies a test of characters; a half surrogate satisfies none. -/
def isWhere (test : Char → Bool) (p : CodePoint) : Bool := (p.char?.map test).getD false

/-- Whether a character may stand in a scheme. -/
def isSchemeChar (c : Char) : Bool := c.isAlphanum || c == '+' || c == '.' || c == '-'

/-- Whether a code point ends a login: a slash, an at sign or a blank. -/
def endsLogin (p : CodePoint) : Bool :=
  isWhere (fun c => c == '/' || c == '@' || Text.isBlank c) p

/-- What stands between a scheme and the rest of an address. -/
def schemeEnd : Text := Text.ofString "://"

/-- Finds the scheme of an address with a login, and leaves the login out. -/
def loginAfterScheme : Text.Finder CodePoint := fun t =>
  match t with
  | [] => none
  | first :: _ =>
    let scheme := t.takeWhile (isWhere isSchemeChar)
    let rest := t.drop scheme.length
    let login := (rest.drop 3).takeWhile fun p => !endsLogin p
    let at? := ((rest.drop 3).drop login.length).head?
    if isWhere Char.isAlpha first && rest.take 3 == schemeEnd && login != [] &&
        (at?.map (isChar '@')).getD false then
      some (scheme ++ schemeEnd, scheme.length + 3 + login.length)
    else none

/-- A value, without logins if it is a text. -/
def withoutLogins : Json → Json
  | .str t => .str (Text.replaceEach loginAfterScheme t)
  | j => j

/-- The fields **without logins** in their texts. -/
def stripLogins (fields : Json.Fields) : Json.Fields :=
  fields.map fun f => (f.1, withoutLogins f.2)

/-! ### Lines -/

/-- What is written to a log: a report under the name of a logger, with a severity. -/
structure Entry where
  /-- The name of the logger. -/
  logger : String
  /-- The severity. -/
  severity : Severity
  /-- The name of the report. -/
  event : String
  /-- The fields of the report. -/
  fields : Json.Fields

/-- The name of the logger that reports of runs are written with. -/
def eventLogger : String := "ingestion.events"

/-- A report of a run, as it is written. -/
def Entry.ofReport (event : String) (fields : Json.Fields) : Entry :=
  ⟨eventLogger, Severity.ofName event, event, fields⟩

/-- The loggers whose reports are shown from warnings on only. -/
def quietedLoggers : List String := ["neo4j"]

/-- Whether a logger is one of the noisy ones, or stands below one. -/
def isNoisy (logger : String) : Bool :=
  quietedLoggers.any fun n => logger == n || logger.startsWith (n ++ ".")

/-- The number that the severities of a noisy logger have to reach. -/
def noisyThreshold (threshold : Int) : Int := max threshold Severity.warning.number

/-- Whether an entry is **shown**. -/
def Entry.isShown (threshold : Int) (e : Entry) : Bool :=
  (if isNoisy e.logger then noisyThreshold threshold else threshold) ≤ e.severity.number

/-- The name that a logger goes by: the one without a name is the root. -/
def loggerName (logger : String) : String := if logger == "" then "root" else logger

/-- The field that asks for the fault that is being handled, which is never there when a report is
written. -/
def faultField : String := "exc_info"

/-- The fields without the one that asks for a fault. -/
def withoutFault (fields : Json.Fields) : Json.Fields :=
  fields.filter fun f => Text.display f.1 != faultField

/-- The **line** of an entry, written at a time. -/
def Entry.line (time : String) (e : Entry) : String :=
  let set (fields : Json.Fields) (name value : String) : Json.Fields :=
    Json.Fields.set fields (Text.ofString name) (.ofString value)
  let fields := set (withoutFault e.fields) "event" e.event
  let fields := set (set fields "logger" (loggerName e.logger)) "level" e.severity.word
  Json.render (.obj (set (stripLogins (maskSecrets fields)) "timestamp" time))

/-- The **lines** of a log that shows what reaches a threshold. -/
def lines (threshold : Int) (time : String) (entries : List Entry) : List String :=
  (entries.filter (Entry.isShown threshold)).map (Entry.line time)

end DepGraph.Log
