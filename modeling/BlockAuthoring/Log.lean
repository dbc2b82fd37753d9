/-!
# Log lines

What is logged, how severe it is and who says so. Lines below a level are not written.
-/

namespace BlockAuthoring

/-- How severe a line is. -/
inductive Severity where
  | debug
  | info
  | warning
  | error
  | critical
  deriving DecidableEq, Repr, Inhabited

namespace Severity

/-- The name of a severity. -/
def name : Severity → String
  | debug => "DEBUG"
  | info => "INFO"
  | warning => "WARNING"
  | error => "ERROR"
  | critical => "CRITICAL"

/-- All severities, the least severe first. -/
def all : List Severity := [debug, info, warning, error, critical]

/-- The severity of a name. -/
def ofName? (name : String) : Option Severity := all.find? (·.name == name)

/-- The rank of a severity. -/
def rank : Severity → Nat
  | debug => 10
  | info => 20
  | warning => 30
  | error => 40
  | critical => 50

end Severity

/-- A line of the log. -/
structure LogLine where
  logger : String
  severity : Severity
  message : String
  deriving DecidableEq, Repr, Inhabited

namespace LogLine

/-- A line as it is written at a time. -/
def written (time : String) (l : LogLine) : String :=
  time ++ " - " ++ l.logger ++ " - " ++ l.severity.name ++ " - " ++ l.message ++ "\n"

/-- The line is written at a level. -/
def isWrittenAt (level : Severity) (l : LogLine) : Bool := level.rank ≤ l.severity.rank

/-- The logger that is meant where none is named. -/
def defaultLogger : String := "ue-enabler"

end LogLine

/-- The text of a log at a level. -/
def logText (level : Severity) (time : String) (lines : List LogLine) : String :=
  String.join ((lines.filter (·.isWrittenAt level)).map (·.written time))

end BlockAuthoring
