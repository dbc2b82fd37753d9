import BlockAuthoring.Analysis.Record
import BlockAuthoring.Server.Config

/-!
# The status of the server

What the server tells of itself.
-/

namespace BlockAuthoring.Server

/-- What the server can do, and what it cannot. -/
def capabilities : List (String × Bool) :=
  [("tools", true), ("resources", true), ("prompts", false), ("logging", true)]

/-- The note for a reader that the contents service does not know. -/
def tokenNote : String :=
  "Set GITHUB_TOKEN in .env for private repositories and higher rate limits"

/-- What each complexity means. -/
def complexityLevels : Json :=
  .object ([Complexity.simple, .moderate, .complex].map fun c => (c.name, c.description))

/-- The status of the server. -/
def status (env : Environment) : Json :=
  let hasToken := (Variable.token.read env).toJson.isTruthy
  .object ([("status", .string "healthy"), ("version", .string ServerConfig.version),
      ("capabilities", .object (capabilities.map fun (name, can) => (name, .bool can))),
      ("github", .object [("token_configured", .bool hasToken),
        ("api_url", (Variable.apiUrl.read env).toJson)]),
      ("complexity_levels", complexityLevels)]
    ++ if hasToken then [] else [("note", .string tokenNote)])

end BlockAuthoring.Server
