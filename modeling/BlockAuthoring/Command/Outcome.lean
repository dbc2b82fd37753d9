import BlockAuthoring.Command.Usage
import BlockAuthoring.Server.Config
import BlockAuthoring.Tool.Session

/-!
# What a command does

A command prints a text, logs lines, may ask for something to be started, and ends with a status.
What a tool fails with becomes a line of the log, if the command deals with failures of its kind. A
failure that nobody deals with breaks the command off; what was printed before it stays. So does a
text that the console does not print.
-/

namespace BlockAuthoring

/-- Something that a command asks to be started. -/
inductive Launch where
  | server (config : ServerConfig)
  /-- The interpreter with these arguments. -/
  | interpreter (arguments : List String)
  deriving DecidableEq, Repr

/-- What a command ends with. -/
structure Outcome where
  exit : Nat
  output : String := ""
  /-- What is said of a command line that cannot be read. -/
  complaint : Option String := none
  launches : List Launch := []
  /-- The failure that broke the command off. -/
  escaped : Option Failure := none
  deriving DecidableEq, Repr, Inhabited

/-- The end of a command that a failure breaks off, and what it has printed before. -/
def Outcome.brokenOff (e : Failure) (output : String := "") : Outcome :=
  { exit := 1, output, escaped := some e }

/-- The end of a command that prints texts one after the other, each on a line, behind what it has
printed before. A text that cannot be made or printed breaks it off. -/
def Outcome.printing (console : Console) (before : String) : List (Except Failure String) → Outcome
  | [] => { exit := 0, output := before }
  | .error e :: _ => brokenOff e before
  | .ok text :: rest =>
    match console.fault? text with
    | some fault => brokenOff (.notPrintable fault) before
    | none => printing console (before ++ text ++ "\n") rest

/-- A command in a session. -/
abbrev Run := ReaderT Surroundings (StateM Session)

namespace Run

/-- What a step of a tool gives. The session goes on either way. -/
def attempt {α : Type} (act : Act α) : Run (Except Failure α) := fun around s =>
  act.runIn around s

/-- The logger of the commands. -/
def logger : String := "cli"

/-- Logs a line. -/
def log (severity : Severity) (message : String) (logger : String := logger) : Run Unit :=
  modify fun s => { s with log := s.log ++ [⟨logger, severity, message⟩] }

/-- Logs several lines. -/
def logAll (severity : Severity) (messages : List String) : Run Unit :=
  messages.forM fun message => log severity message

/-- Ends a command by printing texts, each on a line. -/
def print (texts : List (Except Failure String)) : Run Outcome := do
  return .printing (← read).console "" texts

/-- Ends a command because of what it says about a failure. -/
def fail (message : String) : Run Outcome := do
  log .error message
  return { exit := 1 }

/-- Ends a command because of a failure, if it deals with failures of that kind. -/
def failOf (kinds : List FailureKind) (intro : String) (e : Failure) : Run Outcome :=
  if kinds.contains e.kind then fail (intro ++ e.message) else return .brokenOff e

/-- Ends a command whose line cannot be read. -/
def misuse (program : String) (e : UsageError) : Outcome :=
  { exit := 2, complaint := some (Usage.complaint program e) }

/-- Reads the line of a command and goes on with it. -/
def withUsage (u : Usage) (args : List String) (go : Parsed → Run Outcome) : Run Outcome :=
  match u.parse args with
  | .ok p => go p
  | .error .help => return { exit := 0, output := u.help }
  | .error (.error e) => return misuse u.program e

end Run

/-- A text of several lines. -/
def linesText (lines : List String) : String := String.join (lines.map (· ++ "\n"))

/-- A text filled up with blanks to a width. -/
def padRight (width : Nat) (text : String) : String :=
  text ++ String.ofList (List.replicate (width - text.length) ' ')

end BlockAuthoring
