import BlockAuthoring.Command.Outcome
import BlockAuthoring.Tool.Checking

/-!
# The command `validate`

It checks a schema file or the set-up of a project. A first word that is neither of its two
subjects is the name of a schema file.
-/

namespace BlockAuthoring.Command

/-- What the command is called. -/
def validateProgram : String := "python . validate"

/-- What the command says of itself. -/
def validateHelp : String :=
  linesText ["usage: python . validate [-h] \x7bschema,setup\x7d ...", "",
    "Validate authoring schemas or project setup", "",
    "positional arguments:",
    "  \x7bschema,setup\x7d  What to validate",
    "    schema        Validate a schema JSON file",
    "    setup         Check project setup", "",
    "options:",
    "  -h, --help      show this help message and exit"]

/-- How the check of a schema file is written. -/
def schemaUsage : Usage :=
  { program := "python . validate schema", switches := [], positional := "file", arity := .one }

/-- How the check of a project is written. -/
def setupUsage : Usage :=
  { program := "python . validate setup", switches := [], positional := "project"
    arity := .atMostOne }

/-- What a check found. -/
structure CheckResult where
  errors : List String
  warnings : List String
  /-- What is said if nothing is wrong, and if something is. -/
  verdicts : String × String
  deriving DecidableEq, Repr

/-- What the check of a schema found. -/
def CheckResult.ofReport (r : Report) : CheckResult :=
  ⟨r.errors.map (·.message), r.warnings.map (·.message),
    ("Schema is valid", "Schema is invalid")⟩

/-- What the check of a project found. -/
def CheckResult.ofSetup (r : SetupReport) : CheckResult :=
  ⟨r.errors, r.warnings, (r.summary, r.summary)⟩

/-- Tells what a check found. -/
def tell (r : CheckResult) : Run Outcome := do
  Run.logAll .error r.errors
  Run.logAll .warning r.warnings
  if r.errors.isEmpty then
    Run.log .info r.verdicts.1
    return { exit := 0 }
  else Run.fail r.verdicts.2

/-- Reads the line of a check and makes it. What nobody asked for is complained of in the name of
the whole command. -/
def runCheck (u : Usage) (args : List String) (check : Parsed → Act CheckResult) : Run Outcome :=
  match u.parseKnown args with
  | .error .help => return { exit := 0, output := u.help }
  | .error (.error e) => return Run.misuse u.program e
  | .ok p =>
    if p.leftover.isEmpty then do
      match ← Run.attempt (check p) with
      | .ok r => tell r
      | .error e => Run.failOf [.system, .value] "Validation failed: " e
    else return Run.misuse validateProgram (.unrecognized p.leftover)

/-- Checks a schema file. -/
def runSchemaCheck (args : List String) : Run Outcome :=
  runCheck schemaUsage args fun p => do
    let file := (Path.ofString (p.words.headD "")).toString
    return .ofReport (← checkSchema .null (some file))

/-- Checks the set-up of a project. -/
def runSetupCheck (args : List String) : Run Outcome :=
  runCheck setupUsage args fun p => do
    return .ofSetup (← checkProject (Path.ofString (p.words.headD ".")).toString)

/-- Checks a schema file or a project. -/
def runValidate : List String → Run Outcome
  | [] => return { exit := 1, output := validateHelp }
  | "schema" :: rest => runSchemaCheck rest
  | "setup" :: rest => runSetupCheck rest
  | "-h" :: _ => return { exit := 0, output := validateHelp }
  | "--help" :: _ => return { exit := 0, output := validateHelp }
  | file :: rest => runSchemaCheck (file :: rest)

end BlockAuthoring.Command
