import BlockAuthoring.Command.Blocks
import BlockAuthoring.Command.Checks
import BlockAuthoring.Command.Development
import BlockAuthoring.Command.Serve

/-!
# The program

The first argument names a command, which reads the others.
-/

namespace BlockAuthoring.Command

/-- What the program says of itself. -/
def programHelp : String :=
  linesText ["UE Enabler MCP CLI", "", "Usage: python . \x7bcommand\x7d [args]", "",
    "=== Blocks ===",
    "  list          List blocks in a project or repository",
    "  analyze       Infer the table structure a block expects",
    "  generate      Generate a block's authoring schema",
    "  base-configs  Write base configs and component templates",
    "  validate      Validate a schema file or project setup", "",
    "=== MCP Server ===",
    "  mcp           Run MCP server (STDIO or HTTP mode)", "",
    "=== Development ===",
    "  dev           Development workflows (test, env)", "",
    "Examples:",
    "  python . list -p ../my-site",
    "  python . analyze cards --github adobe/aem-boilerplate",
    "  python . generate hero --preview",
    "  python . base-configs hero cards",
    "  python . validate setup ../my-site",
    "  python . mcp run"]

/-- Runs the program with its arguments. -/
def runProgram : List String → Run Outcome
  | [] => return { exit := 1, output := programHelp }
  | "-h" :: _ => return { exit := 0, output := programHelp }
  | "--help" :: _ => return { exit := 0, output := programHelp }
  | "dev" :: rest => runDevelopment rest
  | "list" :: rest => runList rest
  | "analyze" :: rest => runAnalyze rest
  | "generate" :: rest => runGenerate rest
  | "base-configs" :: rest => runBaseConfigs rest
  | "validate" :: rest => runValidate rest
  | "mcp" :: rest => runServerCommand rest
  | other :: _ => do
    Run.log .error ("Unknown command: " ++ other)
    return { exit := 1, output := programHelp }

end BlockAuthoring.Command
