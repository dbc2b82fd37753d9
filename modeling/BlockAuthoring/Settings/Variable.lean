import BlockAuthoring.Json.Value
import BlockAuthoring.Number.Numeral

/-!
# Variables of the environment

The eight variables that the program reads, each with a type and a default. A value that does not
read as its type counts as none, so that the default holds.
-/

namespace BlockAuthoring

open Number

/-- The variables of the environment by name. -/
abbrev Environment := List (String × String)

/-- What a variable can hold. -/
inductive SettingType where
  | text
  | integer
  | decimal
  deriving DecidableEq, Repr

/-- What a variable holds. -/
inductive Setting where
  | none
  | text (s : String)
  | integer (n : Int)
  | decimal (x : Binary64)
  deriving DecidableEq, Repr, Inhabited

namespace Setting

/-- A setting as JSON. -/
def toJson : Setting → Json
  | none => .null
  | text s => .string s
  | integer n => .int n
  | decimal x => .float x

/-- A setting as it is listed. -/
def shown : Setting → String
  | none => "None"
  | text s => s
  | integer n => toString n
  | decimal x => x.text

/-- The text of a setting. -/
def text? : Setting → Option String
  | text s => some s
  | _ => Option.none

/-- The whole number of a setting. -/
def integer? : Setting → Option Int
  | integer n => some n
  | _ => Option.none

/-- The setting that a raw value makes. -/
def ofString (type : SettingType) (default : Setting) (raw : String) : Setting :=
  match type with
  | .text => text raw
  | .integer =>
    match readInteger raw.toList with
    | .ok n => integer n
    | .error _ => default
  | .decimal =>
    match readBinary64 raw.toList with
    | some x => decimal x
    | .none => default

end Setting

/-- What a variable is for. -/
inductive Category where
  | repository
  | project
  | service
  deriving DecidableEq, Repr

/-- The name of a category. -/
def Category.name : Category → String
  | repository => "github"
  | project => "project"
  | service => "service"

/-- The variables. -/
inductive Variable where
  | token
  | apiUrl
  | branch
  | timeout
  | blocksFolder
  | modelsFolder
  | host
  | port
  deriving DecidableEq, Repr, Inhabited

namespace Variable

/-- All variables, in the order in which they are listed. -/
def all : List Variable := [token, apiUrl, branch, timeout, blocksFolder, modelsFolder, host, port]

/-- What is known about a variable. -/
structure Info where
  name : String
  type : SettingType
  default : Setting
  description : String
  category : Category
  deriving DecidableEq, Repr

/-- What is known about each variable. -/
def info : Variable → Info
  | token =>
    ⟨"GITHUB_TOKEN", .text, .none, "GitHub token used to read block sources from repositories",
      .repository⟩
  | apiUrl =>
    ⟨"GITHUB_API_URL", .text, .text "https://api.github.com",
      "GitHub REST API base URL (set for GitHub Enterprise)", .repository⟩
  | branch =>
    ⟨"GITHUB_BRANCH", .text, .text "main", "Default branch to read block sources from",
      .repository⟩
  | timeout =>
    ⟨"GITHUB_TIMEOUT", .decimal, .decimal (.ofInt 30),
      "Request timeout in seconds for GitHub API calls", .repository⟩
  | blocksFolder =>
    ⟨"UE_BLOCKS_DIR", .text, .text "blocks", "Blocks directory relative to the project root",
      .project⟩
  | modelsFolder =>
    ⟨"UE_MODELS_DIR", .text, .text "ue/models",
      "Universal Editor models directory relative to the project root", .project⟩
  | host => ⟨"MCP_HOST", .text, .text "0.0.0.0", "MCP server bind address", .service⟩
  | port => ⟨"MCP_PORT", .integer, .integer 18080, "MCP server port (avoids 8080)", .service⟩

/-- The variable of a name. -/
def ofName? (name : String) : Option Variable := all.find? fun v => v.info.name == name

/-- The variables of a category, or all. -/
def listed : Option String → List Variable
  | none => all
  | some category => all.filter fun v => v.info.category.name == category

/-- What a variable holds. -/
def read (v : Variable) (env : Environment) : Setting :=
  match env.lookup v.info.name with
  | some raw => .ofString v.info.type v.info.default raw
  | none => v.info.default

/-- What a variable of texts holds. -/
def readText (v : Variable) (env : Environment) : String := ((v.read env).text?).getD ""

/-- What a variable holds, unless it is overridden. -/
def resolve (v : Variable) (env : Environment) (override : Json) : Json :=
  if override.isNull then (v.read env).toJson else override

end Variable

end BlockAuthoring
