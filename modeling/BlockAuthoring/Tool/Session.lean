import BlockAuthoring.Console
import BlockAuthoring.Log
import BlockAuthoring.Settings.Variable
import BlockAuthoring.Source.Service
import BlockAuthoring.Tool.Failure

/-!
# Sessions

A session works in surroundings that do not change: the environment, the contents service and the
console. It keeps the disk, the requests that were made and the lines that were logged, also where a
tool gives nothing.
-/

namespace BlockAuthoring

/-- What a session works in. -/
structure Surroundings where
  environment : Environment
  service : Service
  console : Console := .unicode

/-- What a session keeps. -/
structure Session where
  disk : Disk
  requests : List Request := []
  log : List LogLine := []
  deriving DecidableEq, Repr, Inhabited

/-- A step of a session. -/
abbrev Act := ReaderT Surroundings (ExceptT Failure (StateM Session))

namespace Act

variable {α : Type}

/-- Gives what is there, or stops. -/
def ofExcept {ε : Type} (cause : ε → Failure) : Except ε α → Act α
  | .ok a => pure a
  | .error e => throw (cause e)

/-- The environment of a session. -/
def environment : Act Environment := do return (← read).environment

/-- The disk as it is now. -/
def disk : Act Disk := do return (← get).disk

/-- Goes on with a changed disk. -/
def setDisk (d : Disk) : Act Unit := modify fun s => { s with disk := d }

/-- Logs a line. -/
def log (line : LogLine) : Act Unit := modify fun s => { s with log := s.log ++ [line] }

/-- Hands a path to the system, if it takes it. -/
def handOver (p : Path) : Act Unit := if p.holdsNull then throw .nullByte else pure ()

/-- Makes all folders of a path. Those that were made stay, whatever comes of it. -/
def ensureFolders (p : Path) (device : Device := .sound) : Act Unit := do
  handOver p
  let (result, d) := (← disk).ensureFolders p device
  setDisk d
  ofExcept (fun e => .file (.disk e)) result

/-- Writes a text to a file. -/
def writeText (p : Path) (text : String) (device : Device := .sound) : Act Unit := do
  handOver p
  let (result, d) := (← disk).write p (Text.Utf8.encode text.toList) device
  setDisk d
  ofExcept (fun e => .file (.disk e)) result

/-- Reads the text of a file. -/
def readText (p : Path) : Act String := do
  handOver p
  let text ← ofExcept .file ((← disk).readText p)
  return String.ofList text

/-- What a step gives, and the session behind it. -/
def runIn (act : Act α) (around : Surroundings) (s : Session) : Except Failure α × Session :=
  (act.run around).run.run s

end Act

end BlockAuthoring
