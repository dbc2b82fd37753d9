import BlockAuthoring.Json.Order
import BlockAuthoring.Json.Shown
import BlockAuthoring.Source.Error

/-!
# Listings of blocks

What a source tells of its blocks, where it reads them from, and why it may tell nothing.
-/

namespace BlockAuthoring

/-- Where blocks are read from. -/
inductive SourceKind where
  | folder
  | repository
  deriving DecidableEq, Repr, Inhabited

/-- The name of a kind of source. -/
def SourceKind.name : SourceKind → String
  | folder => "local"
  | repository => "github"

/-- What is told of a block. -/
structure BlockInfo where
  /-- The name as the source gives it. It is a text, unless a service answers otherwise. -/
  name : Json
  /-- The block's folder, as the source writes it. -/
  path : String
  hasCode : Bool
  hasStyle : Bool
  source : SourceKind
  /-- Where the block can be looked at; `null` if nobody says. -/
  url : Json := .null
  deriving Repr, Inhabited

namespace BlockInfo

/-- What is told of a block, as JSON. An address that says nothing is left out. -/
def toJson (b : BlockInfo) : Json :=
  .object ([("name", b.name), ("path", .string b.path), ("has_js", .bool b.hasCode),
      ("has_css", .bool b.hasStyle), ("source", .string b.source.name)]
    ++ if b.url.isTruthy then [("url", b.url)] else [])

/-- The block is called so. -/
def isCalled (name : String) (b : BlockInfo) : Bool := b.name.string? == some name

/-- The name of the file with the code of a block. -/
def codeFile (name : String) : String := name ++ ".js"

/-- The name of the file with the style of a block. -/
def styleFile (name : String) : String := name ++ ".css"

/-! ## Order -/

/-- The name of the first block goes before that of the second one. -/
def isBefore (a b : BlockInfo) : Bool :=
  match Json.below? a.name b.name with
  | .ok answer => answer
  | .error _ => false

/-- What has no order in the first comparison of a name with one that came earlier; the names that
came earlier are given last one first. -/
def unordered? (earlier : List Json) : List Json → Option (Json × Json)
  | [] => none
  | name :: names =>
    match earlier.findSome? (Json.clash? name) with
    | some found => some found
    | none => unordered? (name :: earlier) names

/-- The listing by name. Blocks of one name stay in the order they came in. -/
def sortByName (blocks : List BlockInfo) : Except Malformation (List BlockInfo) :=
  match unordered? [] (blocks.map (·.name)) with
  | some (a, b) => .error (.namesNotOrdered a.typeName b.typeName)
  | none => .ok (blocks.mergeSort fun a b => !isBefore b a)

end BlockInfo

/-- Why a source gives nothing: it says so, or what it gives cannot be read. -/
inductive SourceFailure where
  | source (error : SourceError)
  | malformed (fault : Malformation)
  /-- A file is no text. -/
  | undecodable (fault : Text.Utf8.Fault)
  deriving DecidableEq, Repr

/-- The wording of a failure. -/
def SourceFailure.message : SourceFailure → String
  | source e => e.message
  | malformed f => f.message
  | undecodable f => f.message

/-- The block of a name in a listing. -/
def findBlock (name : String) (blocks : List BlockInfo) : Except SourceError BlockInfo :=
  match blocks.find? (·.isCalled name) with
  | some b => .ok b
  | none => .error (.blockMissing name)

end BlockAuthoring
