import BlockAuthoring.Settings.Layout
import BlockAuthoring.Source.Folder
import BlockAuthoring.Source.Repository
import BlockAuthoring.Tool.Session

/-!
# Where a tool reads blocks from

A tool reads blocks from the project's folder or, if it is told of one, from a repository.
-/

namespace BlockAuthoring

/-- Where blocks are read from. -/
inductive BlockSource where
  | folder (f : BlockFolder)
  | repository (r : Repository)
  deriving DecidableEq, Repr

/-- Which blocks are meant: those of a project, or of a repository if one is given. -/
structure BlockPlace where
  projectPath : String := "."
  /-- The folder of blocks, seen from the project. -/
  blocksPath : Option String := none
  /-- The location of a repository, if it says anything. -/
  repository : Json := .null
  deriving Repr, Inhabited

/-- Asks the contents service in a session. -/
def Act.asking {α : Type} (ask : Asking α) : Act α := do
  let (result, requests) := ((ask.run (← read).service).run).run (← get).requests
  modify fun s => { s with requests }
  ofExcept .source result

namespace BlockSource

/-- The location of a repository. -/
def locationOf (v : Json) : Except Failure Repository.Location := do
  unless v.isObject do throw (.locationNotAnObject v.typeName)
  let owner := v.get "org"
  let name := v.get "repo"
  unless owner.isTruthy && name.isTruthy do throw .repositoryIncomplete
  let said (key : String) : Option Json :=
    if (v.get key).isTruthy then some (v.get key) else none
  let blocksPath ←
    match ((said "blocks_path").or (said "blocksPath")).getD (.string "blocks") with
    | .string path => pure path
    | other => throw (.blocksPathNotText other.typeName)
  let branch := v.get "branch"
  return {
    owner := owner.shown, name := name.shown, blocksPath
    branch := if branch.isNull then none else some branch.shown }

/-- The source that is meant. -/
def ofPlace (env : Environment) (place : BlockPlace) : Except Failure BlockSource :=
  if place.repository.isTruthy then
    (locationOf place.repository).map fun l => .repository (.ofLocation env l)
  else .ok (.folder ⟨blocksPath env (.ofString place.projectPath) place.blocksPath⟩)

/-- The source that is meant in a session. -/
def resolve (place : BlockPlace) : Act BlockSource := do
  match BlockSource.ofPlace (← Act.environment) place with
  | .ok source => return source
  | .error e => throw e

/-- Where the blocks are read from. -/
def description : BlockSource → String
  | folder f => f.description
  | repository r => r.description

/-- The blocks, by name. -/
def list : BlockSource → Act (List BlockInfo)
  | folder f => do Act.ofExcept (fun e => .source (.source e)) (f.list (← Act.disk))
  | repository r => Act.asking r.list

/-- What is told of a block. -/
def find (s : BlockSource) (name : String) : Act BlockInfo := do
  Act.ofExcept (fun e => .source (.source e)) (findBlock name (← s.list))

/-- The code of a listed block. -/
def codeOf (s : BlockSource) (b : BlockInfo) : Act String :=
  match s with
  | folder f => do Act.ofExcept .source (f.code (← Act.disk) b.name.shown)
  | repository r => Act.asking (r.codeOf b)

/-- The code of a block. -/
def code (s : BlockSource) (name : String) : Act String :=
  match s with
  | folder f => do Act.ofExcept .source (f.code (← Act.disk) name)
  | repository r => Act.asking (r.code name)

/-- Looks for a block and gives its code. -/
def load (s : BlockSource) (name : String) : Act String := do
  let b ← s.find name
  unless b.hasCode do throw (.source (.source (.codeMissing name)))
  s.codeOf b

end BlockSource

end BlockAuthoring
