import BlockAuthoring.Schema.Report
import BlockAuthoring.Tool.Session

/-!
# Checking schemas and projects

The tools that only look: is a value an authoring schema, and has a project what it needs.
-/

namespace BlockAuthoring

/-- Reads the value of a schema file. -/
def readSchemaFile (path : String) : Act Json := do
  let p := Path.ofString path
  unless (← Act.disk).isFile p do throw (.schemaFileMissing path)
  match Json.parse (← Act.readText p).toList with
  | .ok v => return v
  | .error (.fault fault) => throw (.schemaFileNotJson path fault)
  | .error (.tooManyDigits digits) => throw (.numberTooLong digits)

/-- Checks a schema: the one that is given, else the one of a file. -/
def checkSchema (schema : Json) (file : Option String) : Act Report := do
  if !schema.isNull then return .ofSchema schema
  match file with
  | some path =>
    if path.isEmpty then throw .nothingToValidate
    return .ofSchema (← readSchemaFile path)
  | none => throw .nothingToValidate

/-- Checks the set-up of a project. -/
def checkProject (project : String) : Act SetupReport := do
  Act.ofExcept .setup (checkSetup (← Act.disk) (.ofString project))

end BlockAuthoring
