import BlockAuthoring.Command.Outcome
import BlockAuthoring.Server.Status

/-!
# Commands of the server

The command `mcp`, and the program that is only a server.
-/

namespace BlockAuthoring.Command

/-- Announces a server and asks for its start. -/
def startServer (c : ServerConfig) : Run Outcome := do
  c.announcement.forM fun line => Run.log .info line ServerConfig.logger
  return { exit := 0, launches := [.server c] }

/-- What is said of the command `mcp`. -/
def serverHelp : String :=
  linesText ["MCP Server Commands", "", "Usage: python . mcp \x7bcommand\x7d [options]", "",
    "Commands:",
    "  run                 Start server in STDIO mode",
    "  serve               Start server in HTTP mode",
    "  info                Show server information", "",
    "Options for 'serve':",
    "  --host HOST         Bind address (default: MCP_HOST or 0.0.0.0)",
    "  --port PORT         Port number (default: MCP_PORT or 18080)",
    "  --transport TYPE    Transport: http or sse (default: http)", "",
    "Client Configuration:",
    "  \x7b",
    "    \"mcpServers\": \x7b",
    "      \"ue-enabler\": \x7b",
    "        \"command\": \"python\",",
    "        \"args\": [\".\", \"mcp\", \"run\"],",
    "        \"cwd\": \"/path/to/ue-enabler-mcp\"",
    "      \x7d",
    "    \x7d",
    "  \x7d"]

/-- What the server says of itself. -/
def serverInfo : String :=
  let shown (capability : String × Bool) : String :=
    "  " ++ capability.1 ++ ": " ++ if capability.2 then "enabled" else "disabled"
  linesText (["UE Enabler MCP Server", String.ofList (List.replicate 40 '='),
      "Version: " ++ ServerConfig.version, "", "Capabilities:"]
    ++ Server.capabilities.map shown
    ++ ["", "Available Tools:",
      "  - list_blocks: List blocks in a project or repository",
      "  - analyze_block_structure: Infer a block's table structure",
      "  - generate_block_json: Generate a block's authoring schema",
      "  - generate_base_configs: Write base configs and templates",
      "  - validate_block_json: Validate an authoring schema",
      "  - validate_setup: Check a project's editor setup",
      "  - status: Server status and configuration"])

/-- How `mcp serve` is written. -/
def serveUsage : Usage :=
  { program := "python . mcp serve"
    switches := [⟨["--host"], .text⟩, ⟨["--port"], .integer⟩,
      ⟨["--transport"], .word ["http", "sse"]⟩] }

/-- The configuration that options ask for. -/
def configOf (p : Parsed) (default : String) : Run (Except UnknownTransport ServerConfig) := do
  return ServerConfig.ofSettings (← read).environment ((p.text? "--transport").getD default)
    (p.text? "--host") (p.integer? "--port")

/-- Starts a server on the network. -/
def runServe (args : List String) : Run Outcome :=
  Run.withUsage serveUsage args fun p => do
    match ← configOf p "http" with
    | .error e => Run.fail e.message
    | .ok c =>
      Run.log .info ("Starting MCP server in " ++ c.transport.name ++ " mode...")
      Run.log .info ("Listening on " ++ c.host ++ ":" ++ toString c.port)
      startServer c

/-- Starts a server, or tells of it. -/
def runServerCommand : List String → Run Outcome
  | [] => return { exit := 1, output := serverHelp }
  | "run" :: _ => do
    Run.log .info "Starting MCP server in STDIO mode..."
    startServer {}
  | "serve" :: rest => runServe rest
  | "info" :: _ => return { exit := 0, output := serverInfo }
  | other :: _ => do
    Run.log .error ("Unknown mcp command: " ++ other)
    return { exit := 1, output := serverHelp }

/-! ## The program that is only a server -/

/-- How the program is written. -/
def serverUsage : Usage :=
  { program := ServerConfig.serverName
    switches := [⟨["--transport", "-t"], .word (Transport.all.map (·.name))⟩,
      ⟨["--host"], .text⟩, ⟨["--port", "-p"], .integer⟩, ⟨["--verbose", "-v"], .nothing⟩] }

/-- The program that is only a server. -/
def serverMain (args : List String) : Run Outcome :=
  Run.withUsage serverUsage args fun p => do
    match ← configOf p Transport.stdio.name with
    | .ok c => startServer c
    | .error e => do
      Run.log .error ("Server error: " ++ e.message) ServerConfig.logger
      return { exit := 1 }

end BlockAuthoring.Command
