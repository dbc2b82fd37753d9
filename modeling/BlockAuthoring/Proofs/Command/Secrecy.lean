import BlockAuthoring.Command.Program
import BlockAuthoring.Proofs.Tool.Secrecy

/-!
# The token stays hidden

Whatever is run in two environments that differ in the value of the token only, with a server that
ignores tokens, nothing that comes of it differs, and the requests differ in their tokens only. So
the token is in no output and no line of the log, in no file, address, result or failure. A token
with a blank behind it is not sent: the client tells of it, and so does the failure of the tool.
-/

namespace BlockAuthoring

namespace Run

variable {α β : Type} {x x' : Run α}

/-- In surroundings and sessions that differ in tokens only, both give the same, and the sessions
behind them differ in tokens only. -/
def Alike (x x' : Run α) : Prop :=
  ∀ around around' s s', around.SameButToken around' → s.SameButTokens s' →
    ((x.run around).run s).1 = ((x'.run around').run s').1
      ∧ ((x.run around).run s).2.SameButTokens ((x'.run around').run s').2

theorem alike_pure (a : α) : Alike (pure a) (pure a) := fun _ _ _ _ _ hs => ⟨rfl, hs⟩

theorem Alike.bind {f f' : α → Run β} (hx : Alike x x') (hf : ∀ a, Alike (f a) (f' a)) :
    Alike (x >>= f) (x' >>= f') := by
  intro around around' s s' haround hs
  obtain ⟨hresult, hsession⟩ := hx around around' s s' haround hs
  rw [ReaderT.run_bind, ReaderT.run_bind, StateT.run_bind, StateT.run_bind]
  generalize (x.run around).run s = outcome at hresult hsession ⊢
  generalize (x'.run around').run s' = outcome' at hresult hsession ⊢
  obtain ⟨a, s₁⟩ := outcome
  obtain ⟨a', s₁'⟩ := outcome'
  cases hresult
  exact hf a around around' s₁ s₁' haround hsession

/-- A step that looks at the surroundings may go on in two ways, as long as they are alike. -/
theorem alike_read_bind {f : Surroundings → Run β}
    (hf : ∀ around around' : Surroundings, around.SameButToken around' →
      Alike (f around) (f around')) :
    Alike (read >>= f) (read >>= f) :=
  fun around around' s s' haround hs => hf around around' haround around around' s s' haround hs

theorem alike_attempt {act : Act α} (h : Act.Alike act) : Alike (attempt act) (attempt act) := by
  intro around around' s s' haround hs
  obtain ⟨hresult, hsession⟩ := h around around' s s' haround hs
  exact ⟨hresult.eq, hsession⟩

theorem alike_log (severity : Severity) (message logger : String) :
    Alike (log severity message logger) (log severity message logger) := by
  intro around around' s s' _ hs
  have hlog : s.log ++ [(⟨logger, severity, message⟩ : LogLine)] = s'.log ++ [_] :=
    congrArg (· ++ _) hs.log
  exact ⟨rfl, hs.disk, hlog, hs.requests⟩

theorem alike_forM {f : α → Run Unit} (h : ∀ a, Alike (f a) (f a)) (xs : List α) :
    Alike (xs.forM f) (xs.forM f) := by
  induction xs with
  | nil => exact alike_pure ()
  | cons a xs ih =>
    rw [List.forM_eq_forM, List.forM_cons]
    exact (h a).bind fun _ => ih

theorem alike_logAll (severity : Severity) (messages : List String) :
    Alike (logAll severity messages) (logAll severity messages) :=
  alike_forM (fun message => alike_log severity message _) messages

theorem alike_print (texts : List (Except Failure String)) : Alike (print texts) (print texts) := by
  refine alike_read_bind fun around around' haround => ?_
  rw [haround.console]
  exact alike_pure _

theorem alike_fail (message : String) : Alike (fail message) (fail message) :=
  (alike_log _ _ _).bind fun _ => alike_pure _

theorem alike_failOf (kinds : List FailureKind) (intro : String) (e : Failure) :
    Alike (failOf kinds intro e) (failOf kinds intro e) := by
  unfold failOf
  split
  · exact alike_fail _
  · exact alike_pure _

theorem alike_withUsage (u : Usage) (args : List String) {go : Parsed → Run Outcome}
    (h : ∀ p, Alike (go p) (go p)) : Alike (withUsage u args go) (withUsage u args go) := by
  unfold withUsage
  split
  · exact h _
  · exact alike_pure _
  · exact alike_pure _

end Run

namespace Command

open Run (Alike alike_pure alike_log alike_logAll alike_print alike_fail alike_failOf alike_attempt
  alike_withUsage)

/-! ## Commands -/

theorem alike_runList (args : List String) : Alike (runList args) (runList args) := by
  refine alike_withUsage _ _ fun p => (alike_attempt (alike_listBlocks _)).bind fun result => ?_
  cases result with
  | ok l => exact alike_print _
  | error e => exact alike_fail _

theorem alike_readNamed (p : Parsed) (option : String) : Act.Alike (readNamed p option) := by
  unfold readNamed
  split
  · exact (Act.alike_readText _).then fun _ => Act.alike_pure _
  · exact Act.alike_pure _

theorem alike_runAnalyze (args : List String) : Alike (runAnalyze args) (runAnalyze args) := by
  refine alike_withUsage _ _ fun p => ?_
  dsimp only
  split
  · exact alike_pure _
  · have hact : Act.Alike (analysisOf p p.words.head?) :=
      (alike_readNamed p _).then fun code => alike_analyzeBlock _ _ code
    refine (alike_attempt hact).bind fun result => ?_
    cases result with
    | ok a => exact alike_print _
    | error e => exact alike_fail _

theorem alike_generationOf (p : Parsed) : Act.Alike (generationOf p) := by
  have hwishes : Act.Alike (readWishesFile p) := by
    refine (alike_readNamed p _).then fun text => ?_
    cases text with
    | some text => exact Act.alike_ofExcept _ _
    | none => exact Act.alike_pure _
  exact hwishes.then fun wishes => GenerationOrder.alike_run _

theorem alike_runGenerate (args : List String) : Alike (runGenerate args) (runGenerate args) := by
  refine alike_withUsage _ _ fun p => (alike_attempt (alike_generationOf p)).bind fun result => ?_
  cases result with
  | error e => exact alike_fail _
  | ok r =>
    refine (alike_logAll _ _).bind fun _ => ?_
    cases r.file with
    | none => exact alike_print _
    | some path => exact (alike_logAll _ _).bind fun _ => alike_pure _

theorem alike_runBaseConfigs (args : List String) :
    Alike (runBaseConfigs args) (runBaseConfigs args) := by
  refine alike_withUsage _ _ fun p =>
    (alike_attempt (alike_writeBaseConfigs _ _)).bind fun result => ?_
  cases result with
  | ok c => exact (alike_logAll _ _).bind fun _ => alike_pure _
  | error e => exact alike_failOf _ _ _

theorem alike_tell (r : CheckResult) : Alike (tell r) (tell r) := by
  refine (alike_logAll _ _).bind fun _ => (alike_logAll _ _).bind fun _ => ?_
  split
  · exact (alike_log _ _ _).bind fun _ => alike_pure _
  · exact alike_fail _

theorem alike_runCheck (u : Usage) (args : List String) {check : Parsed → Act CheckResult}
    (h : ∀ p, Act.Alike (check p)) : Alike (runCheck u args check) (runCheck u args check) := by
  unfold runCheck
  split
  · exact alike_pure _
  · exact alike_pure _
  · split
    · refine (alike_attempt (h _)).bind fun result => ?_
      cases result with
      | ok r => exact alike_tell r
      | error e => exact alike_failOf _ _ _
    · exact alike_pure _

theorem alike_runValidate (args : List String) : Alike (runValidate args) (runValidate args) := by
  have hschema (rest : List String) : Alike (runSchemaCheck rest) (runSchemaCheck rest) :=
    alike_runCheck _ _ fun p => (alike_checkSchema _ _).then fun _ => Act.alike_pure _
  have hsetup (rest : List String) : Alike (runSetupCheck rest) (runSetupCheck rest) :=
    alike_runCheck _ _ fun p => (alike_checkProject _).then fun _ => Act.alike_pure _
  unfold runValidate
  split
  · exact alike_pure _
  · exact hschema _
  · exact hsetup _
  · exact alike_pure _
  · exact alike_pure _
  · exact hschema _

/-- The environment is shown without the token. -/
theorem alike_runDevelopment (args : List String) :
    Alike (runDevelopment args) (runDevelopment args) := by
  unfold runDevelopment
  split
  · exact alike_pure _
  · exact (alike_log _ _ _).bind fun _ => alike_pure _
  · refine Run.alike_read_bind fun around around' haround => ?_
    rw [haround.environment.environmentLines]
    exact alike_print _
  · exact (alike_log _ _ _).bind fun _ => alike_pure _

theorem alike_startServer (c : ServerConfig) : Alike (startServer c) (startServer c) :=
  (Run.alike_forM (fun line => alike_log _ line _) _).bind fun _ => alike_pure _

theorem alike_configOf (p : Parsed) (default : String) :
    Alike (configOf p default) (configOf p default) := by
  refine Run.alike_read_bind fun around around' haround => ?_
  rw [haround.environment.serverConfig]
  exact alike_pure _

theorem alike_runServe (args : List String) : Alike (runServe args) (runServe args) := by
  refine alike_withUsage _ _ fun p => (alike_configOf p _).bind fun result => ?_
  cases result with
  | error e => exact alike_fail _
  | ok c =>
    refine (alike_log _ _ _).bind fun _ => (alike_log _ _ _).bind fun _ => ?_
    exact alike_startServer c

theorem alike_runServerCommand (args : List String) :
    Alike (runServerCommand args) (runServerCommand args) := by
  unfold runServerCommand
  split
  · exact alike_pure _
  · exact (alike_log _ _ _).bind fun _ => alike_startServer _
  · exact alike_runServe _
  · exact alike_pure _
  · exact (alike_log _ _ _).bind fun _ => alike_pure _

theorem alike_serverMain (args : List String) : Alike (serverMain args) (serverMain args) := by
  refine alike_withUsage _ _ fun p => (alike_configOf p _).bind fun result => ?_
  cases result with
  | ok c => exact alike_startServer c
  | error e => exact (alike_log _ _ _).bind fun _ => alike_pure _

theorem alike_runProgram (args : List String) : Alike (runProgram args) (runProgram args) := by
  unfold runProgram
  split
  · exact alike_pure _
  · exact alike_pure _
  · exact alike_pure _
  · exact alike_runDevelopment _
  · exact alike_runList _
  · exact alike_runAnalyze _
  · exact alike_runGenerate _
  · exact alike_runBaseConfigs _
  · exact alike_runValidate _
  · exact alike_runServerCommand _
  · exact (alike_log _ _ _).bind fun _ => alike_pure _

end Command

/-! ## Nothing tells the token -/

/-- The runs give the same, and the sessions behind them differ in the tokens of their requests
only. -/
def SameRuns {α : Type} (run run' : α × Session) : Prop :=
  run.1 = run'.1 ∧ run.2.SameButTokens run'.2

theorem Act.Alike.sameRuns {α : Type} {act : Act α} (h : act.Alike) {around around' : Surroundings}
    {s s' : Session} (haround : around.SameButToken around') (hs : s.SameButTokens s') :
    SameRuns (act.runIn around s) (act.runIn around' s') := by
  obtain ⟨hresult, hsession⟩ := h around around' s s' haround hs
  exact ⟨hresult.eq, hsession⟩

/-- Whatever tool or command is run, the runs in both surroundings are the same. -/
structure NothingTells (around around' : Surroundings) (s s' : Session) : Prop where
  list : ∀ place, SameRuns ((listBlocks place).runIn around s) ((listBlocks place).runIn around' s')
  analyze : ∀ place name code, SameRuns ((analyzeBlock place name code).runIn around s)
    ((analyzeBlock place name code).runIn around' s')
  generate : ∀ o : GenerationOrder, SameRuns (o.run.runIn around s) (o.run.runIn around' s')
  call : ∀ (tool : Server.Tool) arguments,
    SameRuns ((tool.call arguments).runIn around s) ((tool.call arguments).runIn around' s')
  program : ∀ args, SameRuns (((Command.runProgram args).run around).run s)
    (((Command.runProgram args).run around').run s')
  server : ∀ args, SameRuns (((Command.serverMain args).run around).run s)
    (((Command.serverMain args).run around').run s')

/-- **The token stays hidden.** In two environments that differ in the value of the token only, the
status of the server and what is shown of the environment are the same; and where the server that
the client asks ignores tokens, so is what every tool and every command gives, prints, logs and
writes, and what it asks for but for the token. It is so too of asking a repository where the replies
may depend on what was asked before. -/
theorem token_hidden {env env' : Environment} (h : env.SameButToken env') :
    Server.status env = Server.status env'
    ∧ Command.environmentLines env = Command.environmentLines env'
    ∧ (∀ responder : Responder, responder.IgnoresTokens → ∀ console, ∀ s s' : Session,
      s.SameButTokens s' → NothingTells ⟨env, Client.serviceFrom responder, console⟩
        ⟨env', Client.serviceFrom responder, console⟩ s s')
    ∧ ∀ replies : Replies, replies.IgnoreTokens → ∀ l : Repository.Location,
      Asking.Alike (Client.repliesFrom replies) (Repository.ofLocation env l).list
        (Repository.ofLocation env' l).list
      ∧ ∀ folder name, Asking.Alike (Client.repliesFrom replies)
        ((Repository.ofLocation env l).codeIn folder name)
        ((Repository.ofLocation env' l).codeIn folder name) := by
  refine ⟨h.status, h.environmentLines, fun responder hresponder console s s' hs => ?_,
    fun replies hreplies l => ?_⟩
  · have haround : Surroundings.SameButToken ⟨env, Client.serviceFrom responder, console⟩
        ⟨env', Client.serviceFrom responder, console⟩ := ⟨h, rfl, rfl, hresponder.serviceFrom⟩
    exact {
      list := fun place => (alike_listBlocks place).sameRuns haround hs
      analyze := fun place name code => (alike_analyzeBlock place name code).sameRuns haround hs
      generate := fun o => o.alike_run.sameRuns haround hs
      call := fun tool arguments => (Server.Tool.alike_call arguments tool).sameRuns haround hs
      program := fun args => Command.alike_runProgram args _ _ s s' haround hs
      server := fun args => Command.alike_serverMain args _ _ s s' haround hs }
  · have hr := BlockSource.sameButToken_ofLocation h l
    exact ⟨hr.list hreplies.repliesFrom,
      fun folder name => hr.codeIn hreplies.repliesFrom folder name⟩

/-- A server whose folders are all empty. -/
def emptyFolders : Responder := fun _ => .answer 200 "[]"

/-- An environment with a token and nothing else, and the server of empty folders. -/
def Surroundings.withToken (token : String) : Surroundings :=
  { environment := [("GITHUB_TOKEN", token)], service := Client.serviceFrom emptyFolders }

/-- A repository without blocks. -/
def emptySite : BlockPlace :=
  { repository := .object [("org", .string "acme"), ("repo", .string "site")] }

theorem printable_of_all {token : String}
    (h : token.toList.all (fun c => 0x20 ≤ c.toNat && c.toNat < 0x7F) = true) :
    ∀ c ∈ token.toList, 0x20 ≤ c.toNat ∧ c.toNat < 0x7F := by
  intro c hc
  simpa using List.all_eq_true.mp h c hc

theorem token_hidden_emptySite :
    (Surroundings.withToken "alpha").environment.SameButToken
        (Surroundings.withToken "omega").environment
      ∧ emptyFolders.IgnoresTokens
      ∧ SameRuns ((listBlocks emptySite).runIn (.withToken "alpha") .emptyProject)
        ((listBlocks emptySite).runIn (.withToken "omega") .emptyProject)
      ∧ ((listBlocks emptySite).runIn (.withToken "alpha")
        .emptyProject).2.requests.map (·.token) = [some "alpha"]
      ∧ ((listBlocks emptySite).runIn (.withToken "omega")
        .emptyProject).2.requests.map (·.token) = [some "omega"] := by
  have halpha : IsToken "alpha" := ⟨by decide, printable_of_all (by decide), by decide⟩
  have homega : IsToken "omega" := ⟨by decide, printable_of_all (by decide), by decide⟩
  have henv : (Surroundings.withToken "alpha").environment.SameButToken
      (Surroundings.withToken "omega").environment := by
    refine ⟨⟨_, rfl, halpha⟩, ⟨_, rfl, homega⟩, fun name hname => ?_⟩
    have hother : (name == "GITHUB_TOKEN") = false := beq_eq_false_iff_ne.mpr hname
    rw [Surroundings.withToken, Surroundings.withToken, List.lookup_cons, List.lookup_cons, hother]
  have hserver : emptyFolders.IgnoresTokens := fun _ _ _ => rfl
  have hsame : Session.emptyProject.SameButTokens .emptyProject := ⟨rfl, rfl, rfl⟩
  obtain ⟨-, -, hruns, -⟩ := token_hidden henv
  exact ⟨henv, hserver, (hruns emptyFolders hserver .unicode _ _ hsame).list emptySite,
    by decide +kernel, by decide +kernel⟩

/-- The server ignores tokens, and the tokens are printable; but what is told of the failures is
not the same, and the tokens are in it. -/
theorem token_told :
    emptyFolders.IgnoresTokens
      ∧ (∀ token ∈ ["alpha ", "omega "], ∀ c ∈ token.toList, 0x20 ≤ c.toNat ∧ c.toNat < 0x7F)
      ∧ ((listBlocks emptySite).runIn (.withToken "alpha ") .emptyProject).1.mapError (·.message)
        = .error "GitHub request failed: Illegal header value b\x27Bearer alpha \x27"
      ∧ ((listBlocks emptySite).runIn (.withToken "omega ") .emptyProject).1.mapError (·.message)
        = .error "GitHub request failed: Illegal header value b\x27Bearer omega \x27" := by
  refine ⟨fun _ _ _ => rfl, ?_, ?_, ?_⟩
  · simp only [List.forall_mem_cons, List.not_mem_nil, false_implies, forall_const, and_true]
    exact ⟨printable_of_all (by decide), printable_of_all (by decide)⟩
  · rfl
  · rfl

end BlockAuthoring
