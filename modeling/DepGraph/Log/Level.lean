import DepGraph.Event
import DepGraph.Fault
import DepGraph.Text.Case

/-!
# Log levels

A log shows the lines whose severity reaches its **level**. A level may be given as a number, as a
truth value, which counts as one or zero, or by its name in any case; a name that is not known
stands for the usual level. One name stands for a text that is no level, and a log cannot be set up
with it.
-/

namespace DepGraph

/-- The number of a severity: the higher, the more serious. -/
def Severity.number : Severity → Int
  | .debug => 10
  | .info => 20
  | .warning => 30
  | .error => 40
  | .critical => 50

/-- The word for a severity. -/
def Severity.word : Severity → String
  | .debug => "debug"
  | .info => "info"
  | .warning => "warning"
  | .error => "error"
  | .critical => "critical"

/-- The severity with this word; there are other words for three of them. -/
def Severity.ofWord? : String → Option Severity
  | "debug" => some .debug
  | "info" => some .info
  | "warning" | "warn" => some .warning
  | "error" | "exception" => some .error
  | "critical" | "fatal" => some .critical
  | _ => none

namespace Log

/-- A **level** as it is given. -/
inductive Level
  /-- A number. -/
  | number (n : Int)
  /-- A truth value. -/
  | truth (b : Bool)
  /-- A text that is no level. -/
  | wording (text : String)
deriving DecidableEq, Repr

namespace Level

/-- The usual level. -/
def usual : Level := .number 20

/-- The text that is named like a level and is none. -/
def lineFormat : String := "%(levelname)s:%(name)s:%(message)s"

/-- The levels by their names. -/
def named : List (String × Level) :=
  [("CRITICAL", .number 50), ("FATAL", .number 50), ("ERROR", .number 40), ("WARNING", .number 30),
    ("WARN", .number 30), ("INFO", .number 20), ("DEBUG", .number 10), ("NOTSET", .number 0),
    ("BASIC_FORMAT", .wording lineFormat)]

/-- The level with this name. -/
def ofName (name : String) : Level :=
  let capital := String.ofList (Text.capital name.toList)
  ((named.find? (·.1 == capital)).map (·.2)).getD usual

/-- The level that a value stands for. -/
def ofJson : Json → Level
  | .int n => .number n
  | .bool b => .truth b
  | .str t => ofName (Text.display t)
  | _ => usual

/-- The value of a level. -/
def toJson : Level → Json
  | number n => .int n
  | truth b => .bool b
  | wording text => .ofString text

/-- The number that severities have to reach, for a level that a log can be set up with. -/
def threshold : Level → Except Fault Int
  | number n => .ok n
  | truth b => .ok (if b then 1 else 0)
  | wording text => .error (.foreign .value ("Unknown level: " ++ Text.quoteString text))

end Level

end Log

end DepGraph
