import BlockAuthoring.Command.Program

/-!
# The program on a real disk

The folders and files below the current folder, and below the places that arguments name, make the
disk that the program runs on. Afterwards the folders and files that are new or changed are
written. There is no connection to a contents service, and nothing is started.
-/

namespace BlockAuthoring.Real

/-- The location of an absolute path. -/
def locationOf (path : String) : Location := (Path.ofString path).names

/-- The path of a location. -/
def pathOf (l : Location) : String := "/" ++ "/".intercalate l

/-- The folders and files at a path and below it. What cannot be read is left out. -/
partial def gather (path : String) : IO (List (Location × Node)) := do
  try
    let real ← IO.FS.realPath path
    if ← real.isDir then
      let mut found := [(locationOf path, Node.folder)]
      for entry in ← real.readDir do
        found := found ++ (← gather (path ++ "/" ++ entry.fileName))
      return found
    else
      return [(locationOf path, .file (← IO.FS.readBinFile real).toList)]
  catch _ => return []

/-- The folders that a location lies in. -/
def outerFolders (l : Location) : List (Location × Node) :=
  ((List.range l.length).drop 1).map fun count => (l.take count, .folder)

/-- The absolute path of what an argument names, if it names anything. -/
def realPath? (arg : String) : IO (Option String) := do
  try return some (← IO.FS.realPath arg).toString
  catch _ => return none

/-- The disk as far as a command line may be about it. -/
def readDisk (args : List String) : IO Disk := do
  let here := (← IO.currentDir).toString
  let mut entries := outerFolders (locationOf here) ++ (← gather here)
  for arg in args do
    if let some place := ← realPath? arg then
      if !(locationOf here).isPrefixOf (locationOf place) then
        entries := entries ++ outerFolders (locationOf place) ++ (← gather place)
  return ⟨entries.reverse, locationOf here⟩

/-- Writes what a session has changed. -/
def writeDisk (before after : Disk) : IO Unit := do
  for (l, node) in after.entries do
    if before.node? l != some node then
      match node with
      | .folder => IO.FS.createDirAll (pathOf l)
      | .file bytes => IO.FS.writeBinFile (pathOf l) ⟨bytes.toArray⟩

/-- The variables of the environment that are set. -/
def readEnvironment : IO Environment :=
  Variable.all.filterMapM fun v => do
    return (← IO.getEnv v.info.name).map (v.info.name, ·)

/-- The reply where there is no connection. -/
def noConnection : Responder := fun _ => .unreachable "no connection"

end BlockAuthoring.Real

open BlockAuthoring in
/-- Runs the program. -/
def main (args : List String) : IO UInt32 := do
  let disk ← Real.readDisk args
  let around : Surroundings :=
    { environment := ← Real.readEnvironment, service := Client.serviceFrom Real.noConnection }
  let (outcome, session) := ((Command.runProgram args).run around).run { disk }
  Real.writeDisk disk session.disk
  IO.print outcome.output
  IO.eprint (logText .info (toString (← IO.monoMsNow)) session.log)
  if let some complaint := outcome.complaint then IO.eprintln complaint
  if let some e := outcome.escaped then IO.eprintln e.message
  return outcome.exit.toUInt32
