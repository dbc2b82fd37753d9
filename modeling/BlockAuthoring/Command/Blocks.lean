import BlockAuthoring.Command.Outcome
import BlockAuthoring.Json.Printer
import BlockAuthoring.Tool.Writing

/-!
# Commands on blocks

`list`, `analyze`, `generate` and `base-configs`.
-/

namespace BlockAuthoring.Command

/-! ## Options of a source -/

/-- The option that names the project. -/
def projectSwitch : Switch := ⟨["--project", "-p"], .text⟩

/-- The options that say where blocks are read from. -/
def sourceSwitches : List Switch :=
  [projectSwitch, ⟨["--blocks-path"], .text⟩, ⟨["--github"], .text⟩, ⟨["--branch"], .text⟩]

/-- The text of an option that says something. -/
def saidText? (p : Parsed) (name : String) : Option String :=
  (p.text? name).filter fun text => !text.isEmpty

/-- The path that an option names, written plainly. -/
def plainPath (text : String) : String := (Path.ofString text).toString

/-- The project that is meant. -/
def project (p : Parsed) : String := plainPath ((p.text? "--project").getD ".")

/-- The location of the repository that is written as owner and name with a slash between. -/
def repositoryLocation (p : Parsed) (written : String) : Json :=
  let owner := written.toList.takeWhile (· != '/')
  let name := written.toList.drop (owner.length + 1)
  let said (key option : String) : List (String × Json) :=
    match saidText? p option with
    | some text => [(key, .string text)]
    | none => []
  .object ([("org", .string (String.ofList owner)), ("repo", .string (String.ofList name))]
    ++ said "branch" "--branch" ++ said "blocks_path" "--blocks-path")

/-- The place that is meant. The folder of blocks is seen from the repository, if there is one. -/
def place (p : Parsed) : BlockPlace :=
  match saidText? p "--github" with
  | some written => { projectPath := project p, repository := repositoryLocation p written }
  | none => { projectPath := project p, blocksPath := p.text? "--blocks-path" }

/-- Ends a command by printing a value. -/
def printJson (v : Json) : Run Outcome :=
  Run.print [if v.isWritable then .ok v.pretty else .error .numberNotWritable]

/-! ## list -/

/-- How `list` is written. -/
def listUsage : Usage := { program := "python . list", switches := sourceSwitches }

/-- The name of a block as it is filled up to a width: a text, or a number. -/
def nameText (name : Json) : Except Failure String :=
  match name with
  | .string s => .ok s
  | .int n => .ok (toString n)
  | .float x => .ok x.text
  | .bool b => .ok (toString b.toNat)
  | .null | .array _ | .object _ => .error (.notFormatted name.typeName)

/-- The line of a block: its name and the kinds of its files. -/
def listLine (b : BlockInfo) : Except Failure String := do
  let files := (if b.hasCode then ["js"] else []) ++ (if b.hasStyle then ["css"] else [])
  return "  " ++ padRight 24 (← nameText b.name) ++ " "
    ++ (if files.isEmpty then "-" else ", ".intercalate files)

/-- The lines of a listing: where the blocks come from, and then the blocks. -/
def listingLines (l : BlockListing) : List (Except Failure String) :=
  .ok (l.source ++ " (" ++ toString l.blocks.length ++ " blocks)") :: l.blocks.map listLine

/-- Lists the blocks of a project or a repository. -/
def runList (args : List String) : Run Outcome :=
  Run.withUsage listUsage args fun p => do
    match ← Run.attempt (listBlocks (place p)) with
    | .ok l => Run.print (listingLines l)
    | .error e => Run.fail ("Listing blocks failed: " ++ e.message)

/-! ## analyze -/

/-- How `analyze` is written. -/
def analyzeUsage : Usage :=
  { program := "python . analyze"
    switches := ⟨["--file", "-f"], .text⟩ :: sourceSwitches
    positional := "block"
    arity := .atMostOne }

/-- The text of a file that an option names. -/
def readNamed (p : Parsed) (option : String) : Act (Option String) :=
  match p.text? option with
  | some path => do return some (← Act.readText (.ofString path))
  | none => return none

/-- Analyzes a block, or a file. -/
def analysisOf (p : Parsed) (block : Option String) : Act BlockAnalysis := do
  let code ← readNamed p "--file"
  analyzeBlock (place p) block code

/-- Prints the analysis of a block. -/
def runAnalyze (args : List String) : Run Outcome :=
  Run.withUsage analyzeUsage args fun p => do
    let block := p.words.head?
    if (block.getD "").isEmpty && !p.isSet "--file" then
      return Run.misuse analyzeUsage.program (.custom "provide a block name or --file")
    match ← Run.attempt (analysisOf p block) with
    | .ok a => printJson (.object a.summary)
    | .error e => Run.fail ("Analysis failed: " ++ e.message)

/-! ## generate -/

/-- How `generate` is written. -/
def generateUsage : Usage :=
  { program := "python . generate"
    switches := [⟨["--output", "-o"], .text⟩, ⟨["--preview"], .nothing⟩, ⟨["--fields"], .text⟩]
      ++ sourceSwitches
    positional := "block"
    arity := .one }

/-- The author's wishes in the file that an option names. -/
def readWishesFile (p : Parsed) : Act Json := do
  match ← readNamed p "--fields" with
  | some text => Act.ofExcept .fieldsNotJson (Json.parse text.toList)
  | none => return .null

/-- Makes the schema of a block. -/
def generationOf (p : Parsed) : Act GenerationResult := do
  let wishes ← readWishesFile p
  GenerationOrder.run {
    place := place p
    blockName := p.words.headD ""
    outputPath := (p.text? "--output").map plainPath
    preview := p.isSet "--preview"
    wishes }

/-- Makes the schema of a block, and writes or prints it. -/
def runGenerate (args : List String) : Run Outcome :=
  Run.withUsage generateUsage args fun p => do
    match ← Run.attempt (generationOf p) with
    | .error e => Run.fail ("Generation failed: " ++ e.message)
    | .ok r =>
      Run.logAll .warning (r.block.report.warnings.map (·.message))
      match r.file with
      | none => printJson r.block.schema.toJson
      | some path =>
        Run.logAll .info [r.message, "Written to " ++ path.toString]
        return { exit := 0 }

/-! ## base-configs -/

/-- How `base-configs` is written. -/
def baseConfigsUsage : Usage :=
  { program := "python . base-configs"
    switches := [projectSwitch]
    positional := "blocks"
    arity := .any }

/-- Writes the files that every project needs. It only deals with what the system refuses. -/
def runBaseConfigs (args : List String) : Run Outcome :=
  Run.withUsage baseConfigsUsage args fun p => do
    match ← Run.attempt (writeBaseConfigs (project p) (p.words.map .string)) with
    | .ok c =>
      Run.logAll .info (c.created.map ("  " ++ ·.toString) ++ [c.message])
      return { exit := 0 }
    | .error e => Run.failOf [.system] "Writing base configs failed: " e

end BlockAuthoring.Command
