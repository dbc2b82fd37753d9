/-!
# Paths

A path is a list of names behind at most two leading slashes. Empty names and single dots say
nothing and are dropped; double dots are kept, because a folder may be missing.
-/

namespace BlockAuthoring

/-- A path. -/
structure Path where
  /-- The leading slashes: none, one, or exactly two. -/
  leading : Nat
  names : List String
  deriving DecidableEq, Repr, Inhabited

namespace Path

/-- The parts of a text between slashes. There is always at least one. -/
def slashParts : List Char → List (List Char)
  | [] => [[]]
  | '/' :: rest => [] :: slashParts rest
  | c :: rest =>
    match slashParts rest with
    | part :: parts => (c :: part) :: parts
    | [] => [[c]]

/-- The name says where a path goes. -/
def isName (part : List Char) : Bool := part != [] && part != ['.']

/-- The path that a text writes. -/
def ofString (text : String) : Path :=
  let slashes := (text.toList.takeWhile (· == '/')).length
  { leading := if slashes = 2 then 2 else min slashes 1
    names := ((slashParts text.toList).filter isName).map String.ofList }

/-- The path with nothing to say: where one is. -/
def here : Path := ⟨0, []⟩

/-- The path starts at the root. -/
def isAbsolute (p : Path) : Bool := p.leading != 0

/-- The text of a path. -/
def toString (p : Path) : String :=
  if p.leading = 0 && p.names.isEmpty then "."
  else String.ofList (List.replicate p.leading '/') ++ "/".intercalate p.names

instance : ToString Path := ⟨toString⟩

/-- The second path seen from the first. A path from the root stays as it is. -/
def append (p q : Path) : Path := if q.isAbsolute then q else ⟨p.leading, p.names ++ q.names⟩

/-- What a text writes, seen from a path. -/
def join (p : Path) (text : String) : Path := p.append (ofString text)

/-- The path of an entry of a folder, by the folder's path. -/
def child (p : Path) (name : String) : Path := ⟨p.leading, p.names ++ [name]⟩

/-- The path without its last name. -/
def parent (p : Path) : Path := { p with names := p.names.dropLast }

/-- A null byte stands in the text. -/
def holdsNullByte (name : String) : Bool := name.toUTF8.data.contains 0

/-- A null byte stands in the path. No name on a disk has one, and the system takes no such path. -/
def holdsNull (p : Path) : Bool := p.names.any holdsNullByte

/-- The last name of a path. -/
def name (p : Path) : String := p.names.getLastD ""

/-- What paths are compared by: the root, if the path starts there, and then its names. -/
def parts (p : Path) : List String :=
  if p.isAbsolute then String.ofList (List.replicate p.leading '/') :: p.names else p.names

/-- The first path goes before the second one: in the first of their parts that differs, or else
because it ends. -/
def isBefore (p q : Path) : Bool := decide (p.parts < q.parts)

end Path

end BlockAuthoring
