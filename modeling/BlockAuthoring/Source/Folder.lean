import BlockAuthoring.Source.Listing

/-!
# Blocks in a folder

Every folder directly inside the folder of blocks is a block. Its code and its style are the files
in it that have its name.
-/

namespace BlockAuthoring

/-- A folder of blocks. -/
structure BlockFolder where
  path : Path
  deriving DecidableEq, Repr

namespace BlockFolder

/-- Where the blocks are read from. -/
def description (f : BlockFolder) : String := "Local: " ++ f.path.toString

/-- The folder of a block. -/
def blockPath (f : BlockFolder) (name : String) : Path := f.path.join name

/-- The file with the code of a block. -/
def codePath (f : BlockFolder) (name : String) : Path :=
  (f.blockPath name).join (BlockInfo.codeFile name)

/-- The file with the style of a block. -/
def stylePath (f : BlockFolder) (name : String) : Path :=
  (f.blockPath name).join (BlockInfo.styleFile name)

/-- The folders directly inside the folder of blocks, in the order of paths. -/
def blockFolders (f : BlockFolder) (d : Disk) : List Path :=
  (((d.namesIn f.path).map f.path.child).filter d.isFolder).mergeSort fun p q => !q.isBefore p

/-- The names of these folders. -/
def blockNames (f : BlockFolder) (d : Disk) : List String := (f.blockFolders d).map Path.name

/-- What is told of a block. -/
def info (f : BlockFolder) (d : Disk) (name : String) : BlockInfo :=
  { name := .string name
    path := (f.blockPath name).toString
    hasCode := d.isFile (f.codePath name)
    hasStyle := d.isFile (f.stylePath name)
    source := .folder }

/-- The blocks, by name. -/
def list (f : BlockFolder) (d : Disk) : Except SourceError (List BlockInfo) :=
  if d.isFolder f.path then .ok ((f.blockNames d).map (f.info d))
  else .error (.folderMissing f.path)

/-- The code of a block. -/
def code (f : BlockFolder) (d : Disk) (name : String) : Except SourceFailure String :=
  let path := f.codePath name
  if !d.isFile path then
    .error (.source (if d.isFolder path.parent then .codeMissing name else .blockMissing name))
  else
    match d.readText path with
    | .ok text => .ok (String.ofList text)
    | .error (.undecodable fault) => .error (.undecodable fault)
    | .error (.disk e) => .error (.source (.unreadable name e))

end BlockFolder

end BlockAuthoring
