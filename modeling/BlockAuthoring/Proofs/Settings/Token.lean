import BlockAuthoring.Command.Development
import BlockAuthoring.Proofs.Source.Secrecy
import BlockAuthoring.Server.Status
import BlockAuthoring.Settings.Layout

/-!
# Environments with another token

What the environment says beyond the token is the same in two environments that differ in the value
of the token only. The status of the server and the listing of the environment say no more of a
token than that there is one, so they are the same too.
-/

namespace BlockAuthoring

/-- Environments that differ in the value of the token only, and both have one. -/
structure Environment.SameButToken (env env' : Environment) : Prop where
  first : ∃ token, env.lookup Variable.token.info.name = some token ∧ IsToken token
  second : ∃ token, env'.lookup Variable.token.info.name = some token ∧ IsToken token
  others : ∀ name, name ≠ Variable.token.info.name → env.lookup name = env'.lookup name

variable {env env' : Environment}

/-! ## Variables -/

namespace Variable

theorem name_ne_token {v : Variable} (hv : v ≠ .token) : v.info.name ≠ Variable.token.info.name := by
  cases v with
  | token => exact absurd rfl hv
  | _ => decide

theorem read_congr (h : env.SameButToken env') {v : Variable} (hv : v ≠ .token) :
    v.read env = v.read env' := by
  rw [read, read, h.others _ (name_ne_token hv)]

theorem readText_congr (h : env.SameButToken env') {v : Variable} (hv : v ≠ .token) :
    v.readText env = v.readText env' := by
  rw [readText, readText, read_congr h hv]

/-- A token that is set is the one that is read. -/
theorem read_token {token : String} (hset : env.lookup Variable.token.info.name = some token) :
    Variable.token.read env = .text token := by
  rw [read, hset]
  rfl

theorem isToken_readText
    (h : ∃ token, env.lookup Variable.token.info.name = some token ∧ IsToken token) :
    IsToken (Variable.token.readText env) := by
  obtain ⟨token, hset, htoken⟩ := h
  rw [readText, read_token hset]
  exact htoken

/-- A token that is set says something. -/
theorem isTruthy_read_token
    (h : ∃ token, env.lookup Variable.token.info.name = some token ∧ IsToken token) :
    (Variable.token.read env).toJson.isTruthy = true := by
  obtain ⟨token, hset, hnonempty, -, -⟩ := h
  rw [read_token hset]
  simpa [Setting.toJson, Json.isTruthy] using hnonempty

end Variable

/-! ## Folders, the server and what is shown -/

namespace Environment.SameButToken

theorem blocksPath (h : env.SameButToken env') (project : Path) (override : Option String) :
    BlockAuthoring.blocksPath env project override
      = BlockAuthoring.blocksPath env' project override := by
  have hv : Variable.blocksFolder ≠ .token := by decide
  rw [BlockAuthoring.blocksPath, BlockAuthoring.blocksPath, Variable.readText_congr h hv]

theorem modelsPath (h : env.SameButToken env') (project : Path) :
    BlockAuthoring.modelsPath env project = BlockAuthoring.modelsPath env' project := by
  have hv : Variable.modelsFolder ≠ .token := by decide
  rw [BlockAuthoring.modelsPath, BlockAuthoring.modelsPath, Variable.readText_congr h hv]

theorem serverConfig (h : env.SameButToken env') (transport : String) (host : Option String)
    (port : Option Int) :
    ServerConfig.ofSettings env transport host port
      = ServerConfig.ofSettings env' transport host port := by
  have hhost : Variable.host ≠ .token := by decide
  have hport : Variable.port ≠ .token := by decide
  rw [ServerConfig.ofSettings, ServerConfig.ofSettings, Variable.readText_congr h hhost,
    Variable.read_congr h hport]

/-- The status says only that there is a token. -/
theorem status (h : env.SameButToken env') : Server.status env = Server.status env' := by
  have hv : Variable.apiUrl ≠ .token := by decide
  rw [Server.status, Server.status, Variable.read_congr h hv,
    Variable.isTruthy_read_token h.first, Variable.isTruthy_read_token h.second]

theorem variableLine (h : env.SameButToken env') (v : Variable) :
    Command.variableLine env v = Command.variableLine env' v := by
  by_cases hv : v = .token
  · rw [hv, Command.variableLine, Command.variableLine, Variable.isTruthy_read_token h.first,
      Variable.isTruthy_read_token h.second]
    rfl
  · rw [Command.variableLine, Command.variableLine, Variable.read_congr h hv]

/-- A token that is set is shown as the same three stars. -/
theorem environmentLines (h : env.SameButToken env') :
    Command.environmentLines env = Command.environmentLines env' := by
  have hlines : Command.variableLine env = Command.variableLine env' := funext h.variableLine
  rw [Command.environmentLines, Command.environmentLines, hlines]

end Environment.SameButToken

end BlockAuthoring
