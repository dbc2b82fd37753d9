import BlockAuthoring.Command.Outcome

/-!
# Commands for development

The command `dev`: it starts the tests, or shows the environment.
-/

namespace BlockAuthoring.Command

/-- What is said of the command `dev`. -/
def developmentHelp : String :=
  linesText ["Development workflow commands", "", "Usage: python . dev \x7bcommand\x7d [args]", "",
    "Commands:",
    "  test       Run pytest with tier options",
    "  env        Show environment configuration", "",
    "Examples:",
    "  python . dev test --unit           # Fast unit tests",
    "  python . dev test --mcp            # MCP protocol tests"]

/-- The tiers of tests, each with the arguments that choose it. -/
def testTiers : List (String × List String) :=
  [("--unit", ["-m", "unit"]), ("--integration", ["-m", "integration"]), ("--mcp", ["-m", "mcp"]),
    ("--all", [])]

/-- The arguments that start the tests: those of the tiers first, then all others. -/
def testArguments (args : List String) : List String :=
  ["-m", "pytest"] ++ args.flatMap (fun a => (testTiers.lookup a).getD [])
    ++ args.filter fun a => (testTiers.lookup a).isNone

/-- Asks for the tests to be started. -/
def runTests (args : List String) : Run Outcome := do
  let arguments := testArguments args
  Run.log .info ("Running: " ++ " ".intercalate ("python" :: arguments))
  return { exit := 0, launches := [.interpreter arguments] }

/-- A variable as it is shown. A token stays hidden. -/
def variableLine (env : Environment) (v : Variable) : String :=
  let value := v.read env
  let shown := if v = .token && value.toJson.isTruthy then "***" else value.shown
  "  " ++ padRight 16 v.info.name ++ " " ++ shown

/-- The lines of the environment as it is shown, a category after the other. -/
def environmentLines (env : Environment) : List String :=
  ["github", "project", "service"].flatMap fun category =>
    ("\n" ++ category ++ ":") :: (Variable.listed (some category)).map (variableLine env)

/-- Starts the tests, or shows the environment. -/
def runDevelopment : List String → Run Outcome
  | [] => return { exit := 1, output := developmentHelp }
  | "test" :: rest => runTests rest
  | "env" :: _ => do Run.print ((environmentLines (← read).environment).map .ok)
  | other :: _ => do
    Run.log .error ("Unknown dev command: " ++ other)
    return { exit := 1, output := developmentHelp }

end BlockAuthoring.Command
