import BlockAuthoring.Settings.Variable
import BlockAuthoring.Source.Client
import BlockAuthoring.Source.Listing

/-!
# Blocks in a repository

Blocks are read through the contents service: one request lists a folder, another sends a file in
base64. A listing asks for the folder of blocks and then for the folder of every block, in the
order of the first answer, and stops at the first answer that is no listing.
-/

namespace BlockAuthoring

/-- A repository of blocks, as the service is asked for it. -/
structure Repository where
  owner : String
  name : String
  branch : String
  /-- The folder of blocks, without slashes around it. -/
  blocksPath : String
  /-- Where the service is, without slashes behind it. -/
  baseUrl : String
  /-- What the service knows the reader by; an empty token is none. -/
  token : String
  deriving DecidableEq, Repr, Inhabited

/-- Asking the service: the requests are kept also where reading fails. -/
abbrev Asking := ReaderT Replies (ExceptT SourceFailure (StateM (List Request)))

namespace Repository

/-! ## Settings -/

/-- The text without slashes in front of it. -/
def withoutSlashesBefore (text : List Char) : List Char := text.dropWhile (· == '/')

/-- The text without slashes behind it. -/
def withoutSlashesBehind (text : List Char) : List Char :=
  (withoutSlashesBefore text.reverse).reverse

/-- What may be said of a repository; the environment says the rest. -/
structure Location where
  owner : String
  name : String
  branch : Option String := none
  blocksPath : String := "blocks"
  token : Option String := none
  baseUrl : Option String := none
  deriving DecidableEq, Repr, Inhabited

/-- The repository at a location. -/
def ofLocation (env : Environment) (l : Location) : Repository :=
  let said (value : Option String) (v : Variable) : String := value.getD (v.readText env)
  { owner := l.owner
    name := l.name
    branch := said l.branch .branch
    blocksPath := String.ofList (withoutSlashesBehind (withoutSlashesBefore l.blocksPath.toList))
    baseUrl := String.ofList (withoutSlashesBehind (said l.baseUrl .apiUrl).toList)
    token := said l.token .token }

/-- Where the blocks are read from. -/
def description (r : Repository) : String := "GitHub: " ++ r.owner ++ "/" ++ r.name

/-! ## Asking -/

/-- The text of the address of a path. -/
def addressText (r : Repository) (path : String) : List Char :=
  (r.baseUrl ++ "/repos/" ++ r.owner ++ "/" ++ r.name ++ "/contents/" ++ path).toList

/-- The request for a path. -/
def request (r : Repository) (path : String) : Except Malformation Request := do
  let query := "ref=".toList ++ Address.queryValue r.branch.toList
  let address ← Client.addressOf (r.addressText path) query
  return ⟨address, if r.token.isEmpty then none else some r.token⟩

/-- The text of a body behind a byte order mark. -/
def withoutMark : List Char → List Char
  | '\ufeff' :: rest => rest
  | text => text

/-- What a reply says of a path. -/
def contentsOf (path : String) : Reply → Except SourceFailure Json
  | .timedOut detail => .error (.source (.timedOut detail))
  | .unreachable detail => .error (.source (.unreachable detail))
  | .answer status body =>
    if status = 404 then .error (.source (.contentsMissing path))
    else if status ≠ 200 then .error (.source (.refused path status body))
    else (Json.parse (withoutMark body.toList)).mapError fun e => .malformed (.notJson e)

/-- Asks for a path. -/
def contents (r : Repository) (path : String) : Asking Json := do
  match r.request path with
  | .error fault => throw (.malformed fault)
  | .ok request =>
    let before ← get
    set (before ++ [request])
    contentsOf path ((← read).behind before request)

/-! ## Listings -/

/-- The items of the listing of a folder. -/
def listingOf (path : String) : Json → Except SourceFailure (List Json)
  | .array items => .ok items
  | _ => .error (.source (.notAFolder path))

/-- Asks for the items in a folder. -/
def folder (r : Repository) (path : String) : Asking (List Json) := do
  listingOf path (← r.contents path)

/-- The member of an item. -/
def memberOf (key : String) (item : Json) : Except SourceFailure Json :=
  if item.isObject then .ok (item.get key)
  else .error (.malformed (.notAnObject item.typeName))

/-- The name of an item among others. Lists and objects are no names. -/
def fileName (item : Json) : Except SourceFailure Json := do
  let name ← memberOf "name" item
  if name.isArray || name.isObject then .error (.malformed (.nameNotComparable name.typeName))
  else .ok name

/-- The name of a block's item. -/
def blockName (item : Json) : Except SourceFailure Json :=
  match item.member? "name" with
  | some name => .ok name
  | none => .error (.malformed .nameMissing)

/-- The item is a folder, and so a block. -/
def isBlock (item : Json) : Except SourceFailure Bool :=
  (memberOf "type" item).map fun type => type.string? == some "dir"

/-- The folder of a block. -/
def blockPath (r : Repository) (name : String) : String := r.blocksPath ++ "/" ++ name

/-- What an item and the items in its folder tell of a block. -/
def infoOf (r : Repository) (item name : Json) (files : List Json) : BlockInfo :=
  let hasFile (file : String) : Bool := files.any fun f => f.string? == some file
  { name
    path := r.blockPath name.shown
    hasCode := hasFile (BlockInfo.codeFile name.shown)
    hasStyle := hasFile (BlockInfo.styleFile name.shown)
    source := .repository
    url := item.get "html_url" }

/-- Asks what there is to tell of an item; only folders are blocks. -/
def info? (r : Repository) (item : Json) : Asking (Option BlockInfo) := do
  if ← isBlock item then
    let name ← blockName item
    let files ← (← r.folder (r.blockPath name.shown)).mapM (liftM <| fileName ·)
    return some (r.infoOf item name files)
  else return none

/-- The blocks, by name. -/
def list (r : Repository) : Asking (List BlockInfo) := do
  let blocks ← (← r.folder r.blocksPath).filterMapM r.info?
  ((BlockInfo.sortByName blocks).mapError SourceFailure.malformed : Except _ _)

/-! ## Code -/

/-- The file of a block's code in its folder. -/
def codePath (folder : String) (name : String) : String :=
  folder ++ "/" ++ BlockInfo.codeFile name

/-- The text that the content of a file writes. -/
def textOf (path content : String) : Except SourceFailure String :=
  if content.toList.any (0x80 ≤ ·.toNat) then .error (.malformed .contentNotAscii)
  else
    match Text.Base64.decode content.toList with
    | .error fault => .error (.source (.undecodable path (.letters fault)))
    | .ok bytes =>
      match Text.Utf8.decode bytes with
      | .error fault => .error (.source (.undecodable path (.bytes fault)))
      | .ok text => .ok (String.ofList text)

/-- The text of a file as the service sends it. A file without content is empty. -/
def fileText (path : String) (file : Json) : Except SourceFailure String :=
  if file.isObject && (file.get "type").string? == some "file" then
    match file.member? "content" with
    | none => .ok ""
    | some (.string content) => textOf path content
    | some other => .error (.malformed (.contentNotText other.typeName))
  else .error (.source (.notAFile path))

/-- A path that the service does not know is a missing file. -/
def asMissingFile (path : String) : SourceFailure → SourceFailure
  | .source (.contentsMissing _) => .source (.fileMissing path)
  | failure => failure

/-- Asks for the code of a block in a folder. -/
def codeIn (r : Repository) (folder name : String) : Asking String := do
  let path := codePath folder name
  let file ← tryCatch (r.contents path) fun failure => throw (asMissingFile path failure)
  fileText path file

/-- Asks for the code of a block by its name. -/
def code (r : Repository) (name : String) : Asking String := r.codeIn (r.blockPath name) name

/-- Asks for the code of a listed block. -/
def codeOf (r : Repository) (b : BlockInfo) : Asking String := r.codeIn b.path b.name.shown

end Repository

end BlockAuthoring
