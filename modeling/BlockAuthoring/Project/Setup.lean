import BlockAuthoring.Disk.Tree
import BlockAuthoring.Json.Reader
import BlockAuthoring.Schema.Builtin

/-!
# The set-up of a project

What a project needs so that its blocks can be edited: folders, files, and entries in its package
file. Every piece is looked for on its own; a missing one is an error or a warning. Nothing on the
disk is changed.
-/

namespace BlockAuthoring

/-- How much a missing piece matters. -/
inductive Weight where
  | error
  | warning
  deriving DecidableEq, Repr

/-- What is found out about one piece of a project. -/
structure SetupCheck where
  /-- The group that the piece is listed in. -/
  group : Option String := none
  name : String
  passed : Bool
  weight : Weight := .error
  /-- What is said if the piece is missing. -/
  complaint : String
  deriving DecidableEq, Repr

/-- A finding: a piece that was looked for, or something that no piece can be looked for in. -/
inductive Finding where
  | check (c : SetupCheck)
  | broken (complaint : String)
  deriving DecidableEq, Repr

namespace Finding

/-- What a finding says under a weight. -/
def complaint? (weight : Weight) : Finding → Option String
  | check c => if !c.passed && c.weight = weight then some c.complaint else none
  | broken complaint => if weight = .error then some complaint else none

/-- Notes a finding among the checks made so far. -/
def noteIn (checks : List (String × Json)) : Finding → List (String × Json)
  | check c =>
    match c.group with
    | none => Json.setMember checks c.name (.bool c.passed)
    | some group =>
      match checks.lookup group with
      | some (.object members) =>
        Json.setMember checks group (.object (Json.setMember members c.name (.bool c.passed)))
      | _ => Json.setMember checks group (.object [(c.name, .bool c.passed)])
  | broken _ => checks

end Finding

/-- The set-up of a project, piece by piece. -/
structure SetupReport where
  findings : List Finding
  deriving DecidableEq, Repr

namespace SetupReport

/-- What has to be mended. -/
def errors (r : SetupReport) : List String := r.findings.filterMap (·.complaint? .error)

/-- What could be better. -/
def warnings (r : SetupReport) : List String := r.findings.filterMap (·.complaint? .warning)

/-- Nothing has to be mended. -/
def isValid (r : SetupReport) : Bool := r.errors.isEmpty

/-- Which pieces are there. -/
def checks (r : SetupReport) : List (String × Json) := r.findings.foldl Finding.noteIn []

/-- The report in one line. -/
def summary (r : SetupReport) : String :=
  if r.isValid then "Universal Editor setup is complete and valid"
  else
    "Universal Editor setup has " ++ toString r.errors.length ++ " error(s) and "
      ++ toString r.warnings.length ++ " warning(s)"

/-- A report as JSON. -/
def toJson (r : SetupReport) : Json :=
  .object [("valid", .bool r.isValid), ("errors", .strings r.errors),
    ("warnings", .strings r.warnings), ("checks", .object r.checks),
    ("total_errors", .int r.errors.length), ("total_warnings", .int r.warnings.length),
    ("message", .string r.summary)]

end SetupReport

/-- Why the package file ends a check. -/
inductive PackageFault where
  | undecodable (fault : Text.Utf8.Fault)
  | numberTooLong (digits : Nat)
  deriving DecidableEq, Repr

/-- The wording of a fault. -/
def PackageFault.message : PackageFault → String
  | undecodable f => f.message
  | numberTooLong digits => Number.tooManyDigitsMessage digits

namespace Setup

/-! ## The package file -/

/-- The scripts that put the configuration together. -/
def buildScripts : List String :=
  ["build:json", "build:json:models", "build:json:definitions", "build:json:filters"]

/-- The packages that the scripts need. -/
def dependencies : List String := ["merge-json-cli", "npm-run-all", "husky"]

/-- What is said of a package file that is of no use. -/
def unusable (detail : String) : Finding := .broken ("Validation error: " ++ detail)

/-- A part of the package file; a part of the wrong form counts as empty. -/
def part (package : Json) (key : String) : Json × List Finding :=
  match package.get key with
  | .null => (.object [], [])
  | .object members => (.object members, [])
  | _ => (.object [], [unusable ("\"" ++ key ++ "\" in package.json is not an object")])

/-- A script of the package file. -/
def scriptCheck (scripts : Json) (script : String) : Finding :=
  .check {
    group := some "buildScripts", name := script, passed := (scripts.member? script).isSome
    weight := .warning, complaint := "Build script \"" ++ script ++ "\" not found in package.json" }

/-- A package that is asked for, to run or to build. -/
def dependencyCheck (running building : Json) (name : String) : Finding :=
  .check {
    group := some "dependencies", name
    passed := (running.get name).isTruthy || (building.get name).isTruthy
    complaint := "Required dependency \"" ++ name ++ "\" not found in package.json" }

/-- What there is in a package file. -/
def packageFindings (package : Json) : List Finding :=
  if package.isObject then
    let (scripts, scriptFaults) := part package "scripts"
    let (running, runningFaults) := part package "dependencies"
    let (building, buildingFaults) := part package "devDependencies"
    scriptFaults ++ buildScripts.map (scriptCheck scripts) ++ runningFaults ++ buildingFaults
      ++ dependencies.map (dependencyCheck running building)
  else [unusable "package.json is not an object"]

/-- What is found when the package file is read. -/
def readPackage (d : Disk) (path : Path) : Except PackageFault (List Finding) :=
  let unreadable (detail : String) := unusable ("could not read package.json: " ++ detail)
  match d.readText path with
  | .error (.disk e) => .ok [unreadable e.message]
  | .error (.undecodable fault) => .error (.undecodable fault)
  | .ok text =>
    match Json.parse text with
    | .ok package => .ok (packageFindings package)
    | .error (.fault fault) => .ok [unreadable fault.message]
    | .error (.tooManyDigits digits) => .error (.numberTooLong digits)

/-! ## Folders and files -/

/-- A folder of its own. -/
def folderCheck (d : Disk) (path : Path) (name complaint : String) (weight : Weight := .error) :
    Finding :=
  .check { name, passed := d.isFolder path, weight, complaint }

/-- A file of its own. -/
def fileCheck (d : Disk) (path : Path) (name complaint : String) (weight : Weight := .error) :
    Finding :=
  .check { name, passed := d.isFile path, weight, complaint }

/-- The files of a group in a folder. -/
def groupChecks (d : Disk) (folder : Path) (group : String) (names : List String)
    (complaint : String → String) (weight : Weight := .error) : List Finding :=
  names.map fun name =>
    .check {
      group := some group, name, passed := d.isFile (folder.join name)
      weight, complaint := complaint name }

/-- The folders that the configuration lies in. -/
def folderChecks (d : Disk) (root : Path) : List Finding :=
  let models := (root.join "ue").join "models"
  [folderCheck d (root.join "ue") "ueFolder" "ue/ directory not found",
    folderCheck d models "ueModelsFolder" "ue/models/ directory not found",
    folderCheck d (models.join "blocks") "ueBlocksFolder"
      "ue/models/blocks/ directory not found - no blocks instrumented yet" .warning,
    folderCheck d ((root.join "ue").join "scripts") "ueScriptsFolder"
      "ue/scripts/ directory not found"]

/-- The files that the configuration is made of, and those that it is put together to. -/
def configChecks (d : Disk) (root : Path) : List Finding :=
  let models := (root.join "ue").join "models"
  groupChecks d models "baseConfigs" Builtin.schemaFiles
      (fun name => "Base config " ++ name ++ " not found")
    ++ groupChecks d models "templateConfigs" Builtin.templateFiles
      (fun name => "Template config " ++ name ++ " not found in ue/models/")
    ++ groupChecks d root "rootConfigs" Builtin.templateFiles
      (fun name => "Consolidated config " ++ name ++ " not found in root - run build:json") .warning

/-- The scripts of the editor. -/
def scriptChecks (d : Disk) (root : Path) : List Finding :=
  let scripts := (root.join "ue").join "scripts"
  [fileCheck d (scripts.join "ue.js") "ueJs" "ue/scripts/ue.js not found",
    fileCheck d (scripts.join "ue-utils.js") "ueUtilsJs" "ue/scripts/ue-utils.js not found"]

/-- The hooks of the project. The hook itself matters only where there are hooks. -/
def hookChecks (d : Disk) (root : Path) : List Finding :=
  let hooks := root.join ".husky"
  folderCheck d hooks "huskyFolder" ".husky/ directory not found - git hooks not set up" .warning
    :: if d.isFolder hooks then
      [fileCheck d (hooks.join "pre-commit") "preCommitHook"
        "Pre-commit hook not found - automatic build on commit not enabled" .warning]
    else []

end Setup

/-- The set-up of the project at a path. -/
def checkSetup (d : Disk) (root : Path) : Except PackageFault SetupReport :=
  let package := root.join "package.json"
  let before :=
    Setup.fileCheck d package "packageJson" "package.json not found" :: Setup.folderChecks d root
      ++ Setup.configChecks d root ++ Setup.scriptChecks d root
  let inside := if d.isFile package then Setup.readPackage d package else .ok []
  inside.map fun inside => ⟨before ++ inside ++ Setup.hookChecks d root⟩

end BlockAuthoring
