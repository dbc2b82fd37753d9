import BlockAuthoring.Proofs.Disk.Change
import BlockAuthoring.Proofs.Project.Setup

/-!
# The pieces of the configuration

The folders and files of the configuration are noted in a report, and complained of where they are
missing. If all of them are in place, they are noted as there and nothing is said of them.
-/

namespace BlockAuthoring

namespace Builtin

/-- The names of all files that every project needs. -/
def fileNames : List String := schemaFiles ++ templateFiles

theorem isFileName_of_mem : ∀ name ∈ fileNames, Path.IsFileName name := by
  simp [fileNames, schemaFiles, templateFiles, Path.IsFileName]

theorem isFileName_blocks : Path.IsFileName "blocks" := by simp [Path.IsFileName]

theorem map_fst_files (components : List String) : (files components).map (·.1) = fileNames := rfl

theorem map_join_files (p : Path) (components : List String) :
    (files components).map (p.join ·.1) = fileNames.map p.join := by
  rw [← map_fst_files components, List.map_map]
  rfl

/-- No null byte comes in with the name of a file. -/
theorem holdsNull_join_of_mem (models : Path) {name : String} (h : name ∈ fileNames) :
    (models.join name).holdsNull = models.holdsNull := by
  have hbytes : ∀ name ∈ fileNames, Path.holdsNullByte name = false := by decide +kernel
  exact Path.holdsNull_join (isFileName_of_mem name h) (hbytes name h)

theorem holdsNull_join_blocks (models : Path) :
    (models.join "blocks").holdsNull = models.holdsNull :=
  Path.holdsNull_join isFileName_blocks (by decide +kernel)

end Builtin

/-- The pieces of the configuration are noted as there. -/
structure SetupReport.NotesModels (r : SetupReport) : Prop where
  folders : ∀ key ∈ ["ueFolder", "ueModelsFolder", "ueBlocksFolder"],
    r.checks.lookup key = some (.bool true)
  schemas : r.checks.lookup "baseConfigs"
    = some (.object (Builtin.schemaFiles.map fun name => (name, .bool true)))
  templates : r.checks.lookup "templateConfigs"
    = some (.object (Builtin.templateFiles.map fun name => (name, .bool true)))

namespace Setup

variable {d : Disk} {root : Path} {r : SetupReport}

/-! ## In place -/

/-- The folder of the models, where the check looks for it. -/
def modelsFolder (root : Path) : Path := (root.join "ue").join "models"

/-- All folders and files of the configuration lie where the check looks for them. -/
structure InPlace (d : Disk) (root : Path) : Prop where
  outer : d.isFolder (root.join "ue") = true
  models : d.isFolder (modelsFolder root) = true
  blocks : d.isFolder ((modelsFolder root).join "blocks") = true
  files : ∀ name ∈ Builtin.fileNames, d.isFile ((modelsFolder root).join name) = true

theorem InPlace.of_locate_eq {p : Path} (hplace : d.locate p = d.locate (modelsFolder root))
    (hblocks : d.isFolder (p.join "blocks") = true)
    (hfiles : ∀ name ∈ Builtin.fileNames, d.isFile (p.join name) = true) : InPlace d root := by
  have hmodelsName : Path.IsFileName "models" := by simp [Path.IsFileName]
  have hinner : d.isFolder ((modelsFolder root).join "blocks") = true := by
    rw [← Disk.isFolder_join_congr hplace Builtin.isFileName_blocks]
    exact hblocks
  have hmodels := Disk.isFolder_of_isFolder_join Builtin.isFileName_blocks hinner
  refine ⟨Disk.isFolder_of_isFolder_join hmodelsName hmodels, hmodels, hinner, ?_⟩
  intro name hname
  rw [← Disk.isFile_join_congr hplace (Builtin.isFileName_of_mem name hname)]
  exact hfiles name hname

/-! ## Complaints -/

/-- What is said of the pieces of the configuration if they are missing. -/
def modelsComplaints : List String :=
  ["ue/ directory not found", "ue/models/ directory not found",
      "ue/models/blocks/ directory not found - no blocks instrumented yet"]
    ++ Builtin.schemaFiles.map (fun name => "Base config " ++ name ++ " not found")
    ++ Builtin.templateFiles.map fun name =>
      "Template config " ++ name ++ " not found in ue/models/"

/-- The text starts like a complaint about a piece of the configuration. -/
def IsAboutModels (text : String) : Prop :=
  text.toList.take 4 ∈ ["ue/ ".toList, "ue/m".toList, "Base".toList, "Temp".toList]

theorem isAboutModels_of_mem : ∀ text ∈ modelsComplaints, IsAboutModels text := by
  simp [modelsComplaints, IsAboutModels, or_imp, forall_and]

theorem OfPackage.not_isAboutModels {f : Finding} (h : OfPackage f) : ¬ IsAboutModels f.text := by
  cases h <;> simp [IsAboutModels, scriptCheck, dependencyCheck, Setup.unusable, Finding.text]

theorem not_isAboutModels_of_hookChecks : ∀ f ∈ hookChecks d root, ¬ IsAboutModels f.text := by
  unfold hookChecks
  dsimp only
  split <;> simp [IsAboutModels, folderCheck, fileCheck, Finding.text]

/-- A piece that is looked for outside of the package file is there, or it is none of the
configuration. -/
theorem InPlace.standing (h : InPlace d root) :
    ∀ f ∈ standing d root,
      (∃ c, f = .check c ∧ c.passed = true) ∨ ¬ IsAboutModels f.text := by
  have hfiles : ∀ (group : String) (names : List String) (complaint : String → String),
      (∀ name ∈ names, name ∈ Builtin.fileNames) →
      ∀ f ∈ groupChecks d (modelsFolder root) group names complaint,
        ∃ c, f = .check c ∧ c.passed = true := by
    intro group names complaint hnames f hf
    obtain ⟨name, hname, rfl⟩ := List.mem_map.mp hf
    exact ⟨_, rfl, h.files name (hnames name hname)⟩
  have hrootConfigs : ∀ f ∈ groupChecks d root "rootConfigs" Builtin.templateFiles
      (fun name => "Consolidated config " ++ name ++ " not found in root - run build:json")
      .warning, ¬ IsAboutModels f.text := by
    simp [IsAboutModels, groupChecks, Finding.text]
  have hscripts : ∀ f ∈ scriptChecks d root, ¬ IsAboutModels f.text := by
    simp [IsAboutModels, scriptChecks, fileCheck, Finding.text]
  intro f hf
  rw [Setup.standing, List.cons_append, List.cons_append, List.mem_cons, List.mem_append,
    List.mem_append, configChecks, List.mem_append, List.mem_append] at hf
  obtain rfl | (hf | (hf | hf) | hf) | hf := hf
  · exact .inr (by simp [IsAboutModels, fileCheck, Finding.text])
  · simp only [folderChecks, List.mem_cons, List.not_mem_nil, or_false] at hf
    obtain rfl | rfl | rfl | rfl := hf
    · exact .inl ⟨_, rfl, h.outer⟩
    · exact .inl ⟨_, rfl, h.models⟩
    · exact .inl ⟨_, rfl, h.blocks⟩
    · exact .inr (by simp [IsAboutModels, folderCheck, Finding.text])
  · exact .inl (hfiles _ _ _ (by simp +contextual [Builtin.fileNames]) f hf)
  · exact .inl (hfiles _ _ _ (by simp +contextual [Builtin.fileNames]) f hf)
  · exact .inr (hrootConfigs f hf)
  · exact .inr (hscripts f hf)

/-- None of the configuration is complained of. -/
theorem InPlace.silent (h : InPlace d root) (hr : checkSetup d root = .ok r) {text : String}
    (htext : text ∈ modelsComplaints) (weight : Weight) :
    ¬ ∃ f ∈ r.findings, f.complaint? weight = some text := by
  rintro ⟨f, hf, hcomplaint⟩
  have habout : IsAboutModels f.text := by
    rw [Finding.text_eq_of_complaint? hcomplaint]
    exact isAboutModels_of_mem text htext
  obtain ⟨inside, hfindings, hinside⟩ := findings_of_checkSetup hr
  rw [hfindings, List.mem_append, List.mem_append] at hf
  obtain (hf | hf) | hf := hf
  · obtain ⟨c, rfl, hpassed⟩ | hnot := h.standing f hf
    · rw [Finding.complaint?_of_passed hpassed] at hcomplaint
      cases hcomplaint
    · exact hnot habout
  · exact (hinside f hf).not_isAboutModels habout
  · exact not_isAboutModels_of_hookChecks f hf habout

/-! ## Notes -/

/-- A group of files that are there is noted as such. -/
theorem InPlace.group (h : InPlace d root) {names : List String}
    (hnames : ∀ name ∈ names, name ∈ Builtin.fileNames) :
    (names.map fun name => (name, Json.bool (d.isFile ((modelsFolder root).join name))))
      = names.map fun name => (name, .bool true) :=
  List.map_congr_left fun name hname => by rw [h.files name (hnames name hname)]

/-- The pieces of the configuration are noted as there. -/
theorem InPlace.notesModels (h : InPlace d root) (hr : checkSetup d root = .ok r) :
    r.NotesModels where
  folders := by
    intro key hkey
    simp only [List.mem_cons, List.not_mem_nil, or_false] at hkey
    obtain rfl | rfl | rfl := hkey <;> rw [lookup_checks hr (by decide)]
    · rw [← h.outer]
      rfl
    · rw [← h.models]
      rfl
    · rw [← h.blocks]
      rfl
  schemas := by
    rw [lookup_checks hr (by decide), ← h.group (by decide)]
    rfl
  templates := by
    rw [lookup_checks hr (by decide), ← h.group (by decide)]
    rfl

end Setup

end BlockAuthoring
