import BlockAuthoring.Disk.Path
import BlockAuthoring.Text.Newline
import BlockAuthoring.Text.Quoted
import BlockAuthoring.Text.Utf8

/-!
# Folders and files

The disk a project lies on: which location holds a file or a folder. Paths are followed name by
name, through folders that have to be there; double dots lead back out.
-/

namespace BlockAuthoring

/-- A place on the disk: the names from the root. -/
abbrev Location := List String

/-- What a location holds. -/
inductive Node where
  | folder
  | file (bytes : List UInt8)
  deriving DecidableEq, Repr, Inhabited

/-- A disk, and the location that paths start from. The root is always a folder. -/
structure Disk where
  entries : List (Location × Node)
  here : Location
  deriving DecidableEq, Repr, Inhabited

/-- Why a device does not do something: the number and the wording of the system. -/
structure DeviceFault where
  number : Nat
  wording : String
  deriving DecidableEq, Repr

/-- Why something cannot be done with a path. -/
inductive DiskFault where
  | notFound
  | notAFolder
  | isAFolder
  | alreadyThere
  /-- Nothing is in the way, but the device refuses. -/
  | refused (fault : DeviceFault)
  /-- The device stops in the middle of a file. -/
  | brokenOff (fault : DeviceFault)
  deriving DecidableEq, Repr

/-- What cannot be done, and with which path. -/
structure DiskError where
  fault : DiskFault
  path : Path
  deriving DecidableEq, Repr

namespace DiskError

/-- The wording of an error. -/
def message (e : DiskError) : String :=
  let plain (number : Nat) (what : String) : String :=
    "[Errno " ++ toString number ++ "] " ++ what
  let about (number : Nat) (what : String) : String :=
    plain number what ++ ": " ++ Text.quoted e.path.toString
  match e.fault with
  | .notFound => about 2 "No such file or directory"
  | .notAFolder => about 20 "Not a directory"
  | .isAFolder => about 21 "Is a directory"
  | .alreadyThere => about 17 "File exists"
  | .refused f => about f.number f.wording
  | .brokenOff f => plain f.number f.wording

end DiskError

/-- What a disk lies on. It may be full, protected or broken: then it refuses to make a folder or to
open a file, or it stops behind some bytes of a file, whatever the disk holds. -/
structure Device where
  making : Disk → Path → Option DeviceFault
  opening : Disk → Path → Option DeviceFault
  /-- Behind how many bytes of a file it stops. -/
  filling : Disk → Path → List UInt8 → Option (Nat × DeviceFault)

/-- A device that does what it is told. -/
def Device.sound : Device where
  making _ _ := none
  opening _ _ := none
  filling _ _ _ := none

namespace Disk

/-! ## Looking -/

/-- What a location holds. -/
def node? (d : Disk) : Location → Option Node
  | [] => some .folder
  | l => d.entries.lookup l

/-- Follows names from a location. Every location that a name is looked up in has to be a folder;
the last name may lead to nothing. -/
def follow (d : Disk) (l : Location) : List String → Except DiskFault Location
  | [] => .ok l
  | name :: rest =>
    match d.node? l with
    | some .folder => d.follow (if name = ".." then l.dropLast else l ++ [name]) rest
    | some (.file _) => .error .notAFolder
    | none => .error .notFound

/-- The location that a path leads to. -/
def locate (d : Disk) (p : Path) : Except DiskFault Location :=
  d.follow (if p.isAbsolute then [] else d.here) p.names

/-- What a path leads to. -/
def find? (d : Disk) (p : Path) : Option Node :=
  match d.locate p with
  | .ok l => d.node? l
  | .error _ => none

/-- The path leads to a folder. -/
def isFolder (d : Disk) (p : Path) : Bool := d.find? p == some .folder

/-- The path leads to a file. -/
def isFile (d : Disk) (p : Path) : Bool :=
  match d.find? p with
  | some (.file _) => true
  | _ => false

/-- The names in the folder at a location. -/
def namesAt (d : Disk) (l : Location) : List String :=
  d.entries.filterMap fun (place, _) =>
    match place.getLast? with
    | some name => if place.dropLast = l then some name else none
    | none => none

/-- The names in the folder that a path leads to. -/
def namesIn (d : Disk) (p : Path) : List String :=
  match d.locate p with
  | .ok l => d.namesAt l
  | .error _ => []

/-! ## Reading -/

/-- The bytes of a file. -/
def read (d : Disk) (p : Path) : Except DiskError (List UInt8) :=
  match d.locate p with
  | .error fault => .error ⟨fault, p⟩
  | .ok l =>
    match d.node? l with
    | none => .error ⟨.notFound, p⟩
    | some .folder => .error ⟨.isAFolder, p⟩
    | some (.file bytes) => .ok bytes

/-! ## Changing -/

/-- Puts something at a location. -/
def put (d : Disk) (l : Location) (n : Node) : Disk :=
  if d.entries.any (·.1 == l) then
    { d with entries := d.entries.map fun e => if e.1 = l then (l, n) else e }
  else { d with entries := d.entries ++ [(l, n)] }

/-- Puts a file, new or not, into a folder that is there. -/
def putFile (d : Disk) (p : Path) (bytes : List UInt8) : Except DiskError Disk :=
  match d.locate p with
  | .error fault => .error ⟨fault, p⟩
  | .ok l =>
    match d.node? l with
    | some .folder => .error ⟨.isAFolder, p⟩
    | _ => .ok (d.put l (.file bytes))

/-- Writes a file. It is opened, which makes or empties it, and then filled; where the device stops,
it keeps what arrived. The disk is given back as it is left. -/
def write (d : Disk) (p : Path) (bytes : List UInt8) (device : Device := .sound) :
    Except DiskError Unit × Disk :=
  match device.opening d p with
  | some fault => (.error ⟨.refused fault, p⟩, d)
  | none =>
    let (arrived, result) :=
      match device.filling d p bytes with
      | some (count, fault) => (bytes.take count, .error ⟨.brokenOff fault, p⟩)
      | none => (bytes, .ok ())
    match d.putFile p arrived with
    | .error e => (.error e, d)
    | .ok d' => (result, d')

/-- Makes a folder in a folder that is there. -/
def makeFolder (d : Disk) (p : Path) (device : Device := .sound) : Except DiskError Disk :=
  match device.making d p with
  | some fault => .error ⟨.refused fault, p⟩
  | none =>
    match d.locate p with
    | .error fault => .error ⟨fault, p⟩
    | .ok l =>
      match d.node? l with
      | some _ => .error ⟨.alreadyThere, p⟩
      | none => .ok (d.put l .folder)

/-- Makes a folder, unless it is there. -/
def ensureFolder (d : Disk) (p : Path) (device : Device := .sound) : Except DiskError Disk :=
  match d.makeFolder p device with
  | .ok d' => .ok d'
  | .error e => if e.fault ≠ .notFound ∧ d.isFolder p then .ok d else .error e

/-- Makes the folder of so many of a path's names, and before it those it lies in. The disk is
given back as it is left, also where a folder cannot be made. -/
def ensureFoldersUpTo (d : Disk) (p : Path) (device : Device) : Nat → Except DiskError Unit × Disk
  | 0 =>
    match d.ensureFolder { p with names := [] } device with
    | .ok d' => (.ok (), d')
    | .error e => (.error e, d)
  | count + 1 =>
    let inner : Path := { p with names := p.names.take (count + 1) }
    match d.ensureFolder inner device with
    | .ok d' => (.ok (), d')
    | .error e =>
      if e.fault = .notFound then
        match d.ensureFoldersUpTo p device count with
        | (.error e', d') => (.error e', d')
        | (.ok (), d') =>
          match d'.ensureFolder inner device with
          | .ok d'' => (.ok (), d'')
          | .error e' => (.error e', d')
      else (.error e, d)

/-- Makes a folder and all those it lies in. -/
def ensureFolders (d : Disk) (p : Path) (device : Device := .sound) :
    Except DiskError Unit × Disk :=
  d.ensureFoldersUpTo p device p.names.length

/-- Removes a file, or a folder with all that it holds. -/
def remove (d : Disk) (p : Path) : Except DiskError Disk :=
  match d.locate p with
  | .error fault => .error ⟨fault, p⟩
  | .ok l =>
    match d.node? l with
    | none => .error ⟨.notFound, p⟩
    | some _ => .ok { d with entries := d.entries.filter fun e => !l.isPrefixOf e.1 }

end Disk

/-! ## Reading texts -/

/-- Why a text cannot be read. -/
inductive TextError where
  | disk (error : DiskError)
  | undecodable (fault : Text.Utf8.Fault)
  deriving DecidableEq, Repr

/-- The wording of an error. -/
def TextError.message : TextError → String
  | disk e => e.message
  | undecodable f => f.message

/-- The text of a file. -/
def Disk.readText (d : Disk) (p : Path) : Except TextError (List Char) :=
  match d.read p with
  | .error e => .error (.disk e)
  | .ok bytes =>
    match Text.Utf8.decode bytes with
    | .error f => .error (.undecodable f)
    | .ok text => .ok (Text.normalizeNewlines text)

end BlockAuthoring
