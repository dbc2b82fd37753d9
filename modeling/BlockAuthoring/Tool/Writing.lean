import BlockAuthoring.Json.Printer
import BlockAuthoring.Tool.Listing

/-!
# Writing schemas

The tools that write files into a project: the schema of one block, and the files that every
project needs.
-/

namespace BlockAuthoring

/-- The text of a file that holds a value: over several lines, with a newline at the end. -/
def writtenText (v : Json) : String := v.pretty ++ "\n"

/-- Writes a value to a file, into folders that are made if need be. -/
def writeJson (p : Path) (v : Json) (device : Device := .sound) : Act Unit := do
  Act.ensureFolders p.parent device
  if v.isWritable then Act.writeText p (writtenText v) device else throw .numberNotWritable

/-- Where the schema of a block lies, unless somebody says otherwise. -/
def schemaPath (env : Environment) (project : Path) (blockName : String) : Path :=
  ((modelsPath env project).join "blocks").join (blockName ++ ".json")

/-- The logger of the writing tools. -/
def writingLogger : String := "ue_enabler.mcp.tools.generation"

/-- What is asked for when a schema is to be made. -/
structure GenerationOrder where
  place : BlockPlace := {}
  blockName : String
  code : Option String := none
  /-- Where to write the schema. An empty text says nothing. -/
  outputPath : Option String := none
  /-- The schema is only shown. -/
  preview : Bool := false
  /-- The author's wishes for the fields. -/
  wishes : Json := .null
  deriving Repr, Inhabited

/-- A schema that was made, and where it was written. -/
structure GenerationResult where
  block : GeneratedBlock
  file : Option Path
  deriving DecidableEq, Repr

namespace GenerationResult

/-- What is said about a schema that was written. -/
def message (r : GenerationResult) : String :=
  "Successfully generated " ++ r.block.blockName ++ ".json"

/-- A result as JSON. -/
def toJson (r : GenerationResult) : Json :=
  .object (r.block.members ++
    match r.file with
    | some p => [("file_path", .string p.toString), ("message", .string r.message)]
    | none => [])

end GenerationResult

namespace GenerationOrder

/-- Where the schema is to be written. -/
def target (env : Environment) (o : GenerationOrder) : Path :=
  match o.outputPath with
  | some text =>
    if text.isEmpty then schemaPath env (.ofString o.place.projectPath) o.blockName
    else .ofString text
  | none => schemaPath env (.ofString o.place.projectPath) o.blockName

/-- Makes the schema of a block and, unless it is only shown, writes it. -/
def run (o : GenerationOrder) (device : Device := .sound) : Act GenerationResult := do
  let code ← meantCode o.place o.blockName o.code
  let block ← Act.ofExcept .generation (GeneratedBlock.ofCode o.blockName code o.wishes)
  if o.preview then return ⟨block, none⟩
  unless block.report.isValid do
    throw (.invalidSchema o.blockName (block.report.errors.map (·.message)))
  let target := o.target (← Act.environment)
  writeJson target block.schema.toJson device
  Act.log ⟨writingLogger, .info, "Wrote " ++ target.toString⟩
  return ⟨block, some target⟩

end GenerationOrder

/-- The files that were written for a project. -/
structure BaseConfigs where
  created : List Path
  deriving DecidableEq, Repr

namespace BaseConfigs

/-- What is said about the files. -/
def message (c : BaseConfigs) : String :=
  "Successfully created " ++ toString c.created.length ++ " configuration files"

/-- The files as JSON. -/
def toJson (c : BaseConfigs) : Json :=
  .object [("created", .strings (c.created.map (·.toString))), ("success", .bool true),
    ("message", .string c.message)]

end BaseConfigs

/-- Writes the files that every project needs, and makes the folder of its schemas. -/
def writeBaseConfigs (project : String) (blockNames : List Json) (device : Device := .sound) :
    Act BaseConfigs := do
  let models := modelsPath (← Act.environment) (.ofString project)
  Act.ensureFolders (models.join "blocks") device
  let components ←
    match Builtin.sectionComponents blockNames with
    | .ok components => pure components
    | .issues found => throw (.blockNames found)
  let created ← (Builtin.files components).mapM fun (name, v) => do
    writeJson (models.join name) v device
    return models.join name
  Act.log ⟨writingLogger, .info,
    "Wrote " ++ toString created.length ++ " base configs to " ++ models.toString⟩
  return ⟨created⟩

end BlockAuthoring
