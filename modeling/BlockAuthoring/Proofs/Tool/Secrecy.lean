import BlockAuthoring.Proofs.Settings.Token
import BlockAuthoring.Proofs.Tool.Effect
import BlockAuthoring.Server.Toolbox

/-!
# Tools with another token

Two sessions that differ in the tokens of their requests only, in environments that differ in the
value of the token only, stay so: each step of a tool gives the same in both. A step that learns of
the environment, or of the repository that it names, gives things that are the same but for the
token, and the steps behind it make no difference between them.
-/

namespace BlockAuthoring

/-! ## What differs -/

/-- The surroundings differ in the value of the token only, of which their service tells nothing. -/
structure Surroundings.SameButToken (around around' : Surroundings) : Prop where
  environment : around.environment.SameButToken around'.environment
  service : around.service = around'.service
  console : around.console = around'.console
  hidden : Replies.TellNoToken around.service

/-- The sessions are the same but for the tokens of their requests. -/
structure Session.SameButTokens (s s' : Session) : Prop where
  disk : s.disk = s'.disk
  log : s.log = s'.log
  requests : SameAddresses s.requests s'.requests

/-- Both results are the same failure, or both are given and one like the other. -/
inductive ResultsBy {α : Type} (R : α → α → Prop) : Except Failure α → Except Failure α → Prop where
  | ok {a a' : α} (h : R a a') : ResultsBy R (.ok a) (.ok a')
  | error (e : Failure) : ResultsBy R (.error e) (.error e)

theorem ResultsBy.eq {α : Type} {result result' : Except Failure α} (h : ResultsBy Eq result result') :
    result = result' := by
  cases h with
  | ok h => rw [h]
  | error e => rfl

namespace Act

variable {α β : Type} {R : α → α → Prop} {Q : β → β → Prop} {a a' : α} {x x' : Act α}

/-- In surroundings and sessions that differ in tokens only, both give results that are alike, and
the sessions behind them differ in tokens only. -/
def AlikeBy (R : α → α → Prop) (x x' : Act α) : Prop :=
  ∀ around around' s s', around.SameButToken around' → s.SameButTokens s' →
    ResultsBy R (x.runIn around s).1 (x'.runIn around' s').1
      ∧ (x.runIn around s).2.SameButTokens (x'.runIn around' s').2

/-- In surroundings and sessions that differ in tokens only, the step gives the same. -/
def Alike (x : Act α) : Prop := AlikeBy Eq x x

/-! ## Steps -/

theorem alikeBy_pure (h : R a a') : AlikeBy R (pure a) (pure a') :=
  fun _ _ _ _ _ hs => ⟨.ok h, hs⟩

theorem alikeBy_throw (R : α → α → Prop) (e : Failure) : AlikeBy R (throw e) (throw e) :=
  fun _ _ _ _ _ hs => ⟨.error e, hs⟩

theorem AlikeBy.bind {f f' : α → Act β} (hx : AlikeBy R x x')
    (hf : ∀ a a', R a a' → AlikeBy Q (f a) (f' a')) : AlikeBy Q (x >>= f) (x' >>= f') := by
  intro around around' s s' haround hs
  obtain ⟨hresult, hsession⟩ := hx around around' s s' haround hs
  rw [runIn_bind, runIn_bind]
  generalize x.runIn around s = outcome at hresult hsession ⊢
  generalize x'.runIn around' s' = outcome' at hresult hsession ⊢
  obtain ⟨result, s₁⟩ := outcome
  obtain ⟨result', s₁'⟩ := outcome'
  cases hresult with
  | ok h => exact hf _ _ h around around' s₁ s₁' haround hsession
  | error e => exact ⟨.error e, hsession⟩

theorem alike_pure (a : α) : Alike (pure a : Act α) := alikeBy_pure rfl

theorem alike_throw (e : Failure) : Alike (throw e : Act α) := alikeBy_throw Eq e

theorem alike_throw_bind (e : Failure) (f : α → Act β) : Alike ((throw e : Act α) >>= f) :=
  fun _ _ _ _ _ hs => ⟨.error e, hs⟩

/-- Behind the same result, the next step has only to be alike itself. -/
theorem AlikeBy.then {f f' : α → Act β} (hx : AlikeBy Eq x x')
    (hf : ∀ a, AlikeBy Q (f a) (f' a)) : AlikeBy Q (x >>= f) (x' >>= f') := by
  refine hx.bind fun a a' h => ?_
  cases h
  exact hf a

theorem alike_ofExcept {ε : Type} (cause : ε → Failure) (result : Except ε α) :
    Alike (ofExcept cause result) := by
  cases result with
  | ok a => exact alike_pure a
  | error e => exact alike_throw (cause e)

theorem alikeBy_environment : AlikeBy Environment.SameButToken environment environment :=
  fun _ _ _ _ haround hs => ⟨.ok haround.environment, hs⟩

theorem alike_disk : Alike disk := by
  intro around around' s s' _ hs
  rw [runIn_disk, runIn_disk, hs.disk]
  exact ⟨.ok rfl, hs⟩

theorem alike_setDisk (d : Disk) : Alike (setDisk d) :=
  fun _ _ _ _ _ hs => ⟨.ok rfl, rfl, hs.log, hs.requests⟩

theorem alike_log (line : LogLine) : Alike (log line) := by
  intro around around' s s' _ hs
  exact ⟨.ok rfl, hs.disk, congrArg (· ++ [line]) hs.log, hs.requests⟩

theorem alike_handOver (p : Path) : Alike (handOver p) := by
  unfold handOver
  split
  · exact alike_throw _
  · exact alike_pure ()

theorem alike_ensureFolders (p : Path) : Alike (ensureFolders p) :=
  (alike_handOver p).then fun _ => alike_disk.then fun _ => (alike_setDisk _).then fun _ =>
    alike_ofExcept _ _

theorem alike_writeText (p : Path) (text : String) : Alike (writeText p text) :=
  (alike_handOver p).then fun _ => alike_disk.then fun _ => (alike_setDisk _).then fun _ =>
    alike_ofExcept _ _

theorem alike_readText (p : Path) : Alike (readText p) :=
  (alike_handOver p).then fun _ => alike_disk.then fun _ => (alike_ofExcept _ _).then fun _ =>
    alike_pure _

theorem alike_writeJson (p : Path) (v : Json) : Alike (writeJson p v) := by
  refine (alike_ensureFolders p.parent).then fun _ => ?_
  split
  · exact alike_writeText p _
  · exact alike_throw _

theorem alike_mapM {f : α → Act β} (h : ∀ a, Alike (f a)) (xs : List α) : Alike (xs.mapM f) := by
  induction xs with
  | nil => exact alike_pure []
  | cons x xs ih =>
    rw [List.mapM_cons]
    exact (h x).then fun y => ih.then fun ys => alike_pure (y :: ys)

/-- What is asked for alike is alike in a session. -/
theorem alikeBy_asking {ask ask' : Asking α}
    (h : ∀ replies : Replies, replies.TellNoToken → Asking.Alike replies ask ask') :
    AlikeBy Eq (asking ask) (asking ask') := by
  intro around around' s s' haround hs
  obtain ⟨hresult, hrequests⟩ := h around.service haround.hidden _ _ hs.requests
  rw [runIn_asking, runIn_asking, ← haround.service, ← hresult]
  refine ⟨?_, hs.disk, hs.log, hrequests⟩
  cases ((ask.run around.service).run.run s.requests).1 with
  | ok a => exact .ok rfl
  | error e => exact .error _

end Act

open Act

/-! ## Sources of blocks -/

namespace BlockSource

/-- The sources are the same but for the token that a repository is asked with. -/
inductive SameButToken : BlockSource → BlockSource → Prop where
  | folder (f : BlockFolder) : SameButToken (.folder f) (.folder f)
  | repository {r r' : Repository} (h : r.SameButToken r') :
      SameButToken (.repository r) (.repository r')

/-- A location that says no token of its own is asked with the one of the environment. -/
theorem sameButToken_ofLocation {env env' : Environment} (h : env.SameButToken env')
    (l : Repository.Location) :
    (Repository.ofLocation env l).SameButToken (.ofLocation env' l) := by
  have hbranch : Variable.branch ≠ .token := by decide
  have hurl : Variable.apiUrl ≠ .token := by decide
  refine ⟨(Repository.ofLocation env' l).token, ?_, ?_⟩
  · simp only [Repository.ofLocation, Variable.readText_congr h hbranch,
      Variable.readText_congr h hurl]
  · cases htoken : l.token with
    | some token => exact .inl (by simp only [Repository.ofLocation, htoken, Option.getD_some])
    | none =>
      simp only [Repository.ofLocation, htoken, Option.getD_none]
      exact .inr ⟨Variable.isToken_readText h.first, Variable.isToken_readText h.second⟩

theorem alikeBy_resolve (place : BlockPlace) :
    AlikeBy SameButToken (resolve place) (resolve place) := by
  unfold resolve
  refine alikeBy_environment.bind fun env env' h => ?_
  unfold ofPlace
  cases place.repository.isTruthy with
  | true =>
    cases locationOf place.repository with
    | error e => exact alikeBy_throw _ e
    | ok l => exact alikeBy_pure (.repository (sameButToken_ofLocation h l))
  | false =>
    rw [h.blocksPath]
    exact alikeBy_pure (.folder _)

variable {source source' : BlockSource}

theorem SameButToken.description (h : source.SameButToken source') :
    source.description = source'.description := by
  cases h with
  | folder f => rfl
  | repository h =>
    obtain ⟨token, rfl, -⟩ := h
    rfl

theorem SameButToken.list (h : source.SameButToken source') :
    AlikeBy Eq source.list source'.list := by
  unfold BlockSource.list
  cases h with
  | folder f => exact alike_disk.then fun _ => alike_ofExcept _ _
  | repository h => exact alikeBy_asking fun replies hreplies => h.list hreplies

theorem SameButToken.find (h : source.SameButToken source') (name : String) :
    AlikeBy Eq (source.find name) (source'.find name) := by
  unfold BlockSource.find
  exact h.list.then fun _ => alike_ofExcept _ _

theorem SameButToken.codeOf (h : source.SameButToken source') (b : BlockInfo) :
    AlikeBy Eq (source.codeOf b) (source'.codeOf b) := by
  unfold BlockSource.codeOf
  cases h with
  | folder f => exact alike_disk.then fun _ => alike_ofExcept _ _
  | repository h =>
    exact alikeBy_asking fun replies hreplies => h.codeIn hreplies b.path b.name.shown

theorem SameButToken.load (h : source.SameButToken source') (name : String) :
    AlikeBy Eq (source.load name) (source'.load name) := by
  unfold BlockSource.load
  refine (h.find name).then fun b => ?_
  cases b.hasCode with
  | true => exact h.codeOf b
  | false => exact alikeBy_throw _ _

end BlockSource

/-! ## Tools -/

theorem alike_listBlocks (place : BlockPlace) : Alike (listBlocks place) := by
  refine (BlockSource.alikeBy_resolve place).bind fun source source' h => ?_
  rw [h.description]
  exact h.list.then fun blocks => alike_pure _

theorem alike_meantCode (place : BlockPlace) (name : String) (code : Option String) :
    Alike (meantCode place name code) := by
  cases code with
  | some code => exact alike_pure code
  | none => exact (BlockSource.alikeBy_resolve place).bind fun source source' h => h.load name

theorem alike_analyzeBlock (place : BlockPlace) (name code : Option String) :
    Alike (analyzeBlock place name code) := by
  unfold analyzeBlock
  dsimp only
  split
  · exact alike_throw _
  · exact (alike_meantCode place _ code).then fun text => alike_ofExcept _ _

theorem GenerationOrder.target_congr (o : GenerationOrder) {env env' : Environment}
    (h : env.SameButToken env') : o.target env = o.target env' := by
  simp only [GenerationOrder.target, schemaPath, h.modelsPath]

theorem GenerationOrder.alike_run (o : GenerationOrder) : Alike o.run := by
  refine (alike_meantCode _ _ _).then fun code => (alike_ofExcept _ _).then fun block => ?_
  split
  · exact alike_pure _
  · split
    · refine alikeBy_environment.bind fun env env' h => ?_
      rw [o.target_congr h]
      refine (alike_writeJson _ _).then fun _ => (alike_log _).then fun _ => alike_pure _
    · exact alike_throw _

theorem alike_writeBaseConfigs (project : String) (blockNames : List Json) :
    Alike (writeBaseConfigs project blockNames) := by
  unfold writeBaseConfigs
  refine alikeBy_environment.bind fun env env' h => ?_
  rw [h.modelsPath]
  refine (alike_ensureFolders _).then fun _ => ?_
  cases Builtin.sectionComponents blockNames with
  | issues found => exact alike_throw_bind _ _
  | ok components =>
    refine (alike_pure components).then fun components => ?_
    refine (alike_mapM (fun file => ?_) _).then fun created => ?_
    · exact (alike_writeJson _ _).then fun _ => alike_pure _
    · exact (alike_log _).then fun _ => alike_pure _

theorem alike_readSchemaFile (path : String) : Alike (readSchemaFile path) := by
  refine alike_disk.then fun d => ?_
  split
  · refine (alike_readText _).then fun text => ?_
    split
    · exact alike_pure _
    · exact alike_throw _
    · exact alike_throw _
  · exact alike_throw _

theorem alike_checkSchema (schema : Json) (file : Option String) :
    Alike (checkSchema schema file) := by
  unfold checkSchema
  split
  · exact alike_pure _
  · cases file with
    | none => exact alike_throw _
    | some path =>
      dsimp only
      split
      · exact alike_throw _
      · exact (alike_readSchemaFile path).then fun v => alike_pure _

theorem alike_checkProject (project : String) : Alike (checkProject project) :=
  alike_disk.then fun _ => alike_ofExcept _ _

/-- Each tool that a client can call. -/
theorem Server.Tool.alike_call (arguments : Json) (tool : Tool) : Alike (tool.call arguments) := by
  cases tool with
  | analyzeBlock => exact (alike_analyzeBlock _ _ _).then fun a => alike_pure _
  | writeBaseConfigs => exact (alike_writeBaseConfigs _ _).then fun c => alike_pure _
  | generateSchema => exact (GenerationOrder.alike_run _).then fun r => alike_pure _
  | listBlocks => exact (alike_listBlocks _).then fun l => alike_pure _
  | status =>
    refine alikeBy_environment.bind fun env env' h => ?_
    rw [h.status]
    exact alike_pure _
  | checkSchema => exact (alike_checkSchema _ _).then fun r => alike_pure _
  | checkProject => exact (alike_checkProject _).then fun r => alike_pure _

end BlockAuthoring
