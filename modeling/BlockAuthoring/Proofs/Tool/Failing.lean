import BlockAuthoring.Proofs.Project.Configuration
import BlockAuthoring.Proofs.Schema.Writing
import BlockAuthoring.Proofs.Tool.Effect
import BlockAuthoring.Tool.Checking

/-!
# How tools fail

No tool logs an error: that is left to whoever deals with its failure. What a tool fails with
depends on what it does. Only the system can keep the files of every project from being written,
and what a check is stopped by is either the system or a value that cannot be read.
-/

namespace BlockAuthoring

/-- The lines that were logged from the first session to the second one tell of no error. -/
def Session.NoErrorUntil (s s' : Session) : Prop :=
  ∃ lines, s'.log = s.log ++ lines ∧ ∀ line ∈ lines, line.severity ≠ .error

namespace Session.NoErrorUntil

variable {s s' s'' : Session}

theorem of_log_eq (h : s'.log = s.log) : s.NoErrorUntil s' := ⟨[], by simp [h], nofun⟩

theorem refl (s : Session) : s.NoErrorUntil s := of_log_eq rfl

theorem trans (h : s.NoErrorUntil s') (h' : s'.NoErrorUntil s'') : s.NoErrorUntil s'' := by
  obtain ⟨lines, hlines, hcalm⟩ := h
  obtain ⟨lines', hlines', hcalm'⟩ := h'
  refine ⟨lines ++ lines', by rw [hlines', hlines, List.append_assoc], fun line hline => ?_⟩
  rcases List.mem_append.mp hline with hline | hline
  · exact hcalm line hline
  · exact hcalm' line hline

end Session.NoErrorUntil

instance : IsPreorder Session Session.NoErrorUntil where
  refl := .refl
  trans _ _ _ := .trans

/-! ## Steps -/

namespace Act

variable {α : Type} {P : Failure → Prop}

/-- The step logs no error, and whatever it fails with has the property. -/
abbrev FailsOnly (P : Failure → Prop) (x : Act α) : Prop := Keeps Session.NoErrorUntil P x

/-- The step logs no error. It may fail with anything. -/
abbrev Calm (x : Act α) : Prop := FailsOnly (fun _ => True) x

theorem failsOnly_setDisk (d : Disk) : FailsOnly P (setDisk d) :=
  fun _ _ => ⟨.of_log_eq rfl, fun _ h => nomatch h⟩

theorem failsOnly_log {severity : Severity} (h : severity ≠ .error) (logger message : String) :
    FailsOnly P (log ⟨logger, severity, message⟩) := by
  intro around s
  refine ⟨⟨[⟨logger, severity, message⟩], rfl, fun line hline => ?_⟩, fun _ h => nomatch h⟩
  rw [List.mem_singleton.mp hline]
  exact h

variable {p : Path}

theorem failsOnly_ensureFolders (h : ∀ e, P (.file (.disk e)))
    (hnull : p.holdsNull = true → P .nullByte) : FailsOnly P (ensureFolders p) :=
  (keeps_handOver hnull).bind fun _ => keeps_disk.bind fun _ =>
    (failsOnly_setDisk _).bind fun _ => keeps_ofExcept fun e _ => h e

theorem failsOnly_writeText (h : ∀ e, P (.file (.disk e)))
    (hnull : p.holdsNull = true → P .nullByte) (text : String) :
    FailsOnly P (writeText p text) :=
  (keeps_handOver hnull).bind fun _ => keeps_disk.bind fun _ =>
    (failsOnly_setDisk _).bind fun _ => keeps_ofExcept fun e _ => h e

theorem failsOnly_writeJson {v : Json} (h : ∀ e, P (.file (.disk e)))
    (hnull : p.holdsNull = true → P .nullByte)
    (hnumber : v.isWritable = false → P .numberNotWritable) : FailsOnly P (writeJson p v) := by
  have hparent : p.parent.holdsNull = true → P .nullByte := by
    cases hwhole : p.holdsNull with
    | true => exact fun _ => hnull hwhole
    | false => simp [Path.holdsNull_parent hwhole]
  refine (failsOnly_ensureFolders h hparent).bind fun _ => ?_
  cases hwritable : v.isWritable with
  | true => exact failsOnly_writeText h hnull _
  | false => exact keeps_throw (hnumber hwritable)

end Act

open Act

/-! ## Looking for blocks -/

theorem keptByFinding_noErrorUntil : KeptByFinding Session.NoErrorUntil (fun _ => True) where
  requests _ _ := .of_log_eq rfl
  source _ := trivial
  location _ _ _ := trivial

theorem calm_listBlocks (place : BlockPlace) : Calm (listBlocks place) :=
  (keptByFinding_noErrorUntil.resolve place).bind fun source =>
    (keptByFinding_noErrorUntil.list source).bind fun _ => keeps_pure _

theorem calm_analyzeBlock (place : BlockPlace) (name code : Option String) :
    Calm (analyzeBlock place name code) := by
  unfold analyzeBlock
  dsimp only
  split
  · exact keeps_throw trivial
  · exact (keptByFinding_noErrorUntil.meantCode place _ code).bind fun text =>
      keeps_ofExcept fun _ _ => trivial

/-! ## Writing -/

theorem GenerationOrder.calm_run (o : GenerationOrder) : Calm o.run := by
  refine (keptByFinding_noErrorUntil.meantCode _ _ _).bind fun code =>
    (keeps_ofExcept fun _ _ => trivial).bind fun block => ?_
  split
  · exact keeps_pure _
  · split
    · refine keeps_environment.bind fun env => ?_
      refine (failsOnly_writeJson (fun _ => trivial) (fun _ => trivial) fun _ => trivial).bind
        fun _ => ?_
      exact (failsOnly_log (by decide) _ _).bind fun _ => keeps_pure _
    · exact keeps_throw trivial

theorem Json.Shape.itemsFrom_text (names : List String) (index : Nat) :
    itemsFrom text index (names.map .string) = .ok names := by
  induction names generalizing index with
  | nil => rfl
  | cons name names ih =>
    rw [List.map_cons, itemsFrom, ih (index + 1)]
    rfl

/-- Names that are texts are components of a section. -/
theorem Builtin.sectionComponents_map_string (names : List String) :
    sectionComponents (names.map .string) = .ok names := by
  rw [sectionComponents, Json.Shape.itemsFrom_text]
  rfl

/-- If the names of the blocks are texts and no null byte stands in the path of the models,
only the system keeps the files from being written. -/
theorem writeBaseConfigs_fails {around : Surroundings} {project : String}
    (hnull : (modelsPath around.environment (.ofString project)).holdsNull = false)
    (names : List String) (s : Session) :
    s.NoErrorUntil ((writeBaseConfigs project (names.map .string)).runIn around s).2
      ∧ ∀ e, ((writeBaseConfigs project (names.map .string)).runIn around s).1 = .error e →
        e.kind = .system := by
  have henv : environment.runIn around s = (.ok around.environment, s) := rfl
  unfold writeBaseConfigs
  rw [runIn_bind, henv, Builtin.sectionComponents_map_string]
  dsimp only
  generalize modelsPath around.environment (.ofString project) = models at hnull
  have hinside {p : Path} (hp : p.holdsNull = models.holdsNull) :
      p.holdsNull = true → Failure.nullByte.kind = .system := by
    rw [hp, hnull]
    exact nofun
  refine ((failsOnly_ensureFolders (fun _ => rfl)
    (hinside (Builtin.holdsNull_join_blocks models))).bind fun _ => ?_ :
      FailsOnly (·.kind = .system) _) around s
  refine (keeps_pure names).bind fun components => ?_
  refine (keeps_mapM _ fun file hfile => ?_).bind fun created => ?_
  · have hname : file.1 ∈ Builtin.fileNames :=
      Builtin.map_fst_files components ▸ List.mem_map_of_mem hfile
    refine (failsOnly_writeJson (fun _ => rfl)
      (hinside (Builtin.holdsNull_join_of_mem models hname)) fun hnot => ?_).bind
        fun _ => keeps_pure _
    rw [Builtin.isWritable_of_mem components file hfile] at hnot
    cases hnot
  · exact (failsOnly_log (by decide) _ _).bind fun _ => keeps_pure _

/-! ## Checking -/

theorem failsOnly_readSchemaFile (path : String) :
    FailsOnly (·.kind ≠ .other) (readSchemaFile path) := by
  refine keeps_disk.bind fun d => ?_
  split
  · refine (keeps_readText (fun e => ?_) fun _ => nofun).bind fun text => ?_
    · cases e <;> exact nofun
    · split
      · exact keeps_pure _
      · exact keeps_throw nofun
      · exact keeps_throw nofun
  · exact keeps_throw nofun

theorem failsOnly_checkSchema (schema : Json) (file : Option String) :
    FailsOnly (·.kind ≠ .other) (checkSchema schema file) := by
  unfold checkSchema
  split
  · exact keeps_pure _
  · cases file with
    | none => exact keeps_throw nofun
    | some path =>
      dsimp only
      split
      · exact keeps_throw nofun
      · exact (failsOnly_readSchemaFile path).bind fun v => keeps_pure _

theorem failsOnly_checkProject (project : String) :
    FailsOnly (·.kind ≠ .other) (checkProject project) :=
  keeps_disk.bind fun _ => keeps_ofExcept fun _ _ => nofun

end BlockAuthoring
