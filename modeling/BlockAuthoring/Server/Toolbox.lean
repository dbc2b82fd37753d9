import BlockAuthoring.Schema.Published
import BlockAuthoring.Server.Status
import BlockAuthoring.Tool.Checking
import BlockAuthoring.Tool.Writing

/-!
# The tools of the server

The tools that a client can call by name, with arguments as JSON, and the document it can read.
-/

namespace BlockAuthoring.Server

/-! ## Arguments -/

/-- A text among the arguments. -/
def textArgument (arguments : Json) (key : String) : Option String := (arguments.get key).string?

/-- The project that is meant. -/
def projectArgument (arguments : Json) : String := (textArgument arguments "project_path").getD "."

/-- The blocks that are meant. -/
def placeArgument (arguments : Json) : BlockPlace :=
  { projectPath := projectArgument arguments
    blocksPath := textArgument arguments "local_blocks_path"
    repository := arguments.get "github" }

/-- What a schema is to be made of. -/
def orderArgument (arguments : Json) : GenerationOrder :=
  { place := placeArgument arguments
    blockName := (textArgument arguments "block_name").getD ""
    code := textArgument arguments "code"
    outputPath := textArgument arguments "output_path"
    preview := (arguments.get "preview").isTruthy
    wishes := arguments.get "custom_fields" }

/-- The names of blocks that a section should take. -/
def namesArgument (arguments : Json) : List Json :=
  match arguments.get "block_names" with
  | .array names => names
  | _ => []

/-! ## Calls -/

/-- The tools. -/
inductive Tool where
  | analyzeBlock
  | writeBaseConfigs
  | generateSchema
  | listBlocks
  | status
  | checkSchema
  | checkProject
  deriving DecidableEq, Repr

namespace Tool

/-- All tools, by name. -/
def all : List Tool :=
  [analyzeBlock, writeBaseConfigs, generateSchema, listBlocks, status, checkSchema, checkProject]

/-- The name of a tool. -/
def name : Tool → String
  | analyzeBlock => "analyze_block_structure"
  | writeBaseConfigs => "generate_base_configs"
  | generateSchema => "generate_block_json"
  | listBlocks => "list_blocks"
  | status => "status"
  | checkSchema => "validate_block_json"
  | checkProject => "validate_setup"

/-- The tool of a name. -/
def ofName? (name : String) : Option Tool := all.find? (·.name == name)

/-- Calls a tool. -/
def call (arguments : Json) : Tool → Act Json
  | analyzeBlock => do
    let name := textArgument arguments "block_name"
    let code := textArgument arguments "code"
    return (← BlockAuthoring.analyzeBlock (placeArgument arguments) name code).toJson
  | writeBaseConfigs => do
    let names := namesArgument arguments
    return (← BlockAuthoring.writeBaseConfigs (projectArgument arguments) names).toJson
  | generateSchema => do return (← (orderArgument arguments).run).toJson
  | listBlocks => do return (← BlockAuthoring.listBlocks (placeArgument arguments)).toJson
  | status => do return Server.status (← Act.environment)
  | checkSchema => do
    let file := textArgument arguments "file_path"
    return (← BlockAuthoring.checkSchema (arguments.get "schema") file).toJson
  | checkProject => do return (← BlockAuthoring.checkProject (projectArgument arguments)).toJson

/-- What a client is told when a tool gives nothing. -/
def complaint (tool : Tool) (f : Failure) : String :=
  "Error calling tool \x27" ++ tool.name ++ "\x27: " ++ f.message

end Tool

/-- The address of the document that describes authoring schemas. -/
def documentAddress : String := "schema://authoring"

end BlockAuthoring.Server
