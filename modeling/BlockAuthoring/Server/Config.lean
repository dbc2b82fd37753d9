import BlockAuthoring.Settings.Variable
import BlockAuthoring.Text.Quoted

/-!
# Configuring the server

How the server is reached: through its own input and output, or over the network at a host and a
port.
-/

namespace BlockAuthoring

/-- How the server is reached. -/
inductive Transport where
  | stdio
  | http
  | sse
  deriving DecidableEq, Repr, Inhabited

namespace Transport

/-- All transports. -/
def all : List Transport := [stdio, http, sse]

/-- The name of a transport. -/
def name : Transport → String
  | stdio => "stdio"
  | http => "http"
  | sse => "sse"

/-- The transport of a name. -/
def ofName? (name : String) : Option Transport := all.find? (·.name == name)

end Transport

/-- A name that no transport has. -/
structure UnknownTransport where
  name : String
  deriving DecidableEq, Repr

/-- The wording of an error. -/
def UnknownTransport.message (e : UnknownTransport) : String :=
  Text.quoted e.name ++ " is not a valid TransportType"

/-- How the server is configured. -/
structure ServerConfig where
  transport : Transport := .stdio
  host : String := "0.0.0.0"
  port : Int := 18080
  deriving DecidableEq, Repr, Inhabited

namespace ServerConfig

/-- What the server is called. -/
def serverName : String := "ue-enabler-mcp"

/-- The version of the server. -/
def version : String := "0.1.0"

/-- The path under which the server answers. -/
def path : String := "/mcp"

/-- Where clients connect to; nothing for a server without a network. -/
def url (c : ServerConfig) : Option String :=
  let base := "http://" ++ c.host ++ ":" ++ toString c.port
  match c.transport with
  | .stdio => none
  | .http => some (base ++ path)
  | .sse => some base

/-- The configuration that is asked for. Without a name of a transport the server uses its own
input and output; the environment says host and port unless they are given. -/
def ofSettings (env : Environment) (transport : String) (host : Option String := none)
    (port : Option Int := none) : Except UnknownTransport ServerConfig :=
  let chosen := if transport.isEmpty then some .stdio else Transport.ofName? transport
  match chosen with
  | none => .error ⟨transport⟩
  | some transport =>
    .ok {
      transport
      host := host.getD (Variable.host.readText env)
      port := port.getD (((Variable.port.read env).integer?).getD 0) }

/-- The logger of the server. -/
def logger : String := "ue_enabler.mcp.server"

/-- What the server says when it starts. -/
def announcement (c : ServerConfig) : List String :=
  ["Starting " ++ serverName ++ " server v" ++ version, "Transport: " ++ c.transport.name,
    match c.transport with
    | .stdio => "Running in STDIO mode"
    | .http => "Running in HTTP mode at " ++ c.url.getD ""
    | .sse => "Running in SSE mode at " ++ c.url.getD ""]

end ServerConfig

end BlockAuthoring
