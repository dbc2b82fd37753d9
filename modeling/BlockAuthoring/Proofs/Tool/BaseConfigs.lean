import BlockAuthoring.Proofs.Project.Configuration
import BlockAuthoring.Proofs.Tool.Session
import BlockAuthoring.Tool.Checking

/-!
# Files that every project needs, and the check for them

What is written for every project is found by the check of its set-up, as long as the folder of the
models lies where the check looks. The environment can move that folder, and then the check does not
follow.
-/

namespace BlockAuthoring

section

variable {around around' : Surroundings} {s s' s'' : Session} {project : String}
  {blockNames : List Json} {c : BaseConfigs}

/-! ## What is written -/

/-- All files lie in the folder of the models then, next to the folder of the blocks. -/
theorem writeBaseConfigs_eq_ok
    (h : (writeBaseConfigs project blockNames).runIn around s = (.ok c, s')) :
    s'.disk.isFolder ((modelsPath around.environment (.ofString project)).join "blocks") = true
      ∧ ∀ name ∈ Builtin.fileNames,
        s'.disk.isFile ((modelsPath around.environment (.ofString project)).join name) = true := by
  unfold writeBaseConfigs at h
  obtain ⟨env, s₁, henv, h⟩ := Act.bind_eq_ok_iff.mp h
  cases henv
  generalize modelsPath around.environment (.ofString project) = models at h ⊢
  obtain ⟨_, s₂, hblocks, h⟩ := Act.bind_eq_ok_iff.mp h
  obtain ⟨-, -, hfolder⟩ := Act.ensureFolders_eq_ok hblocks
  cases hcomponents : Builtin.sectionComponents blockNames with
  | issues found =>
    rw [hcomponents] at h
    obtain ⟨_, _, hthrow, -⟩ := Act.bind_eq_ok_iff.mp h
    exact absurd hthrow Act.throw_ne_ok
  | ok components =>
    rw [hcomponents] at h
    obtain ⟨_, s₃, hpure, h⟩ := Act.bind_eq_ok_iff.mp h
    obtain ⟨rfl, rfl⟩ := Act.pure_eq_ok_iff.mp hpure
    obtain ⟨created, s₄, hfiles, h⟩ := Act.bind_eq_ok_iff.mp h
    obtain ⟨_, s₅, hlog, h⟩ := Act.bind_eq_ok_iff.mp h
    cases hlog
    cases h
    obtain ⟨hgrows, hall⟩ := Act.mapM_grows
      (P := fun (x : String × Json) d => d.isFile (models.join x.1) = true)
      (by
        intro x s p s' hx
        obtain ⟨_, s₁, hwritten, hx⟩ := Act.bind_eq_ok_iff.mp hx
        obtain ⟨-, rfl⟩ := Act.pure_eq_ok_iff.mp hx
        obtain ⟨-, hgrows, -, hfile⟩ := Act.writeJson_eq_ok hwritten
        exact ⟨hgrows, hfile⟩)
      (fun x d d' hgrows => hgrows.isFile) hfiles
    refine ⟨hgrows.isFolder hfolder, fun name hname => ?_⟩
    rw [← Builtin.map_fst_files components] at hname
    obtain ⟨x, hx, rfl⟩ := List.mem_map.mp hname
    exact hall x hx

/-- Nothing is written into a folder whose path is not taken by the system. -/
theorem holdsNull_of_writeBaseConfigs
    (h : (writeBaseConfigs project blockNames).runIn around s = (.ok c, s')) :
    (modelsPath around.environment (.ofString project)).holdsNull = false := by
  unfold writeBaseConfigs at h
  obtain ⟨env, s₁, henv, h⟩ := Act.bind_eq_ok_iff.mp h
  cases henv
  obtain ⟨_, s₂, hblocks, -⟩ := Act.bind_eq_ok_iff.mp h
  obtain ⟨hnull, -⟩ := Act.ensureFolders_eq_ok hblocks
  rwa [Builtin.holdsNull_join_blocks] at hnull

/-! ## What is found -/

theorem checkProject_eq_ok_iff {r : SetupReport} :
    (checkProject project).runIn around s = (.ok r, s') ↔
      checkSetup s.disk (.ofString project) = .ok r ∧ s = s' := by
  rw [checkProject, Act.bind_eq_ok_iff]
  constructor
  · rintro ⟨d, s₁, hdisk, hresult⟩
    cases hdisk
    exact Act.ofExcept_eq_ok_iff.mp hresult
  · intro h
    exact ⟨s.disk, s, rfl, Act.ofExcept_eq_ok_iff.mpr h⟩

/-- Where the models lie, unless the environment says otherwise, is where the check looks. -/
theorem modelsPath_eq_modelsFolder {env : Environment} (root : Path)
    (h : Variable.modelsFolder.readText env = "ue/models") :
    modelsPath env root = Setup.modelsFolder root := by
  have hpath : Path.ofString "ue/models" = ⟨0, ["ue"] ++ ["models"]⟩ := by decide
  have houter : Path.IsFileName "ue" := by simp [Path.IsFileName]
  have hinner : Path.IsFileName "models" := by simp [Path.IsFileName]
  rw [modelsPath, h, Setup.modelsFolder, Path.join_of_isFileName _ houter,
    Path.join_of_isFileName _ hinner, List.append_assoc, Path.join, hpath]
  rfl

/-- **What is written is found.** If the files that every project needs are written, and the folder
of the models lies where the check looks for it, then every report on the project notes the folders
and files of the configuration as there, and says nothing of them. -/
theorem checkProject_after_writeBaseConfigs
    (hwrite : (writeBaseConfigs project blockNames).runIn around s = (.ok c, s'))
    (hplace : s'.disk.locate (modelsPath around.environment (.ofString project))
      = s'.disk.locate (Setup.modelsFolder (.ofString project)))
    {r : SetupReport} (hcheck : (checkProject project).runIn around s' = (.ok r, s'')) :
    r.NotesModels ∧ ∀ text ∈ Setup.modelsComplaints, text ∉ r.errors ∧ text ∉ r.warnings := by
  obtain ⟨hblocks, hfiles⟩ := writeBaseConfigs_eq_ok hwrite
  have hinPlace := Setup.InPlace.of_locate_eq hplace hblocks hfiles
  have hr := (checkProject_eq_ok_iff.mp hcheck).1
  refine ⟨hinPlace.notesModels hr, fun text htext => ?_⟩
  rw [SetupReport.mem_errors_iff, SetupReport.mem_warnings_iff]
  exact ⟨hinPlace.silent hr htext .error, hinPlace.silent hr htext .warning⟩

/-- What writing the files gives in an empty project whose models lie in a folder. -/
def writtenInto (folder : String) : Except Failure BaseConfigs × Session :=
  (writeBaseConfigs "." [.string "hero"]).runIn (.withModels folder) .emptyProject

theorem isOk_writtenInto :
    (writtenInto "ue/../ue/models").1.isOk = true ∧ (writtenInto "content/models").1.isOk = true := by
  decide +kernel

/-- A folder that is written as a detour is still the one that is looked for. -/
theorem checkProject_after_writeBaseConfigs_detour :
    ∃ c s' r, (writeBaseConfigs "." [.string "hero"]).runIn (.withModels "ue/../ue/models")
        .emptyProject = (.ok c, s')
      ∧ s'.disk.locate (modelsPath [("UE_MODELS_DIR", "ue/../ue/models")] (.ofString "."))
        = s'.disk.locate (Setup.modelsFolder (.ofString "."))
      ∧ (checkProject ".").runIn (.withModels "ue/../ue/models") s' = (.ok r, s')
      ∧ r.NotesModels ∧ ∀ text ∈ Setup.modelsComplaints, text ∉ r.errors ∧ text ∉ r.warnings := by
  obtain ⟨c, hwrite⟩ := exists_eq_ok_of_isOk isOk_writtenInto.1
  have hplace : (writtenInto "ue/../ue/models").2.disk.locate
        (modelsPath [("UE_MODELS_DIR", "ue/../ue/models")] (.ofString "."))
      = (writtenInto "ue/../ue/models").2.disk.locate (Setup.modelsFolder (.ofString ".")) := by
    decide +kernel
  have hpackage : (writtenInto "ue/../ue/models").2.disk.isFile
      ((Path.ofString ".").join "package.json") = false := by decide +kernel
  have hcheck : (checkProject ".").runIn (.withModels "ue/../ue/models")
      (writtenInto "ue/../ue/models").2 = (.ok _, (writtenInto "ue/../ue/models").2) :=
    checkProject_eq_ok_iff.mpr ⟨checkSetup_of_not_isFile hpackage, rfl⟩
  exact ⟨c, _, _, hwrite, hplace, hcheck,
    checkProject_after_writeBaseConfigs hwrite hplace hcheck⟩

/-- Models that lie in another folder are not found, though they are written. -/
theorem checkProject_misses_movedModels :
    ∃ c s' r, (writeBaseConfigs "." [.string "hero"]).runIn (.withModels "content/models")
        .emptyProject = (.ok c, s')
      ∧ (checkProject ".").runIn (.withModels "content/models") s' = (.ok r, s')
      ∧ r.checks.lookup "ueFolder" = some (.bool false)
      ∧ "ue/ directory not found" ∈ r.errors := by
  obtain ⟨c, hwrite⟩ := exists_eq_ok_of_isOk isOk_writtenInto.2
  have hpackage : (writtenInto "content/models").2.disk.isFile
      ((Path.ofString ".").join "package.json") = false := by decide +kernel
  have hfolder : (writtenInto "content/models").2.disk.isFolder
      ((Path.ofString ".").join "ue") = false := by decide +kernel
  have hsetup := checkSetup_of_not_isFile hpackage
  refine ⟨c, _, _, hwrite, checkProject_eq_ok_iff.mpr ⟨hsetup, rfl⟩, ?_, ?_⟩
  · rw [lookup_checks hsetup (by decide), ← hfolder]
    rfl
  · refine SetupReport.mem_errors_iff.mpr ⟨Setup.folderCheck (writtenInto "content/models").2.disk
      ((Path.ofString ".").join "ue") "ueFolder" "ue/ directory not found", ?_, ?_⟩
    · simp [Setup.standing, Setup.folderChecks]
    · simp [Setup.folderCheck, Finding.complaint?, hfolder]

end

end BlockAuthoring
