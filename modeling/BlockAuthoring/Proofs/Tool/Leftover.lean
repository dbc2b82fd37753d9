import BlockAuthoring.Proofs.Tool.BaseConfigs
import BlockAuthoring.Proofs.Tool.Effect

/-!
# What is left of a failure

A tool that fails before it writes leaves the disk as it was. If it fails in writing, there may be
new folders on the way, of several files those that were written before, and of a file in the middle
of which the device stops its first bytes. No file but these is new or different, and nothing is
gone.
-/

namespace BlockAuthoring

open BlockAuthoring.Path (IsEntryName)

/-! ## Files that are written one after another -/

section

variable {around : Surroundings} {s s' : Session} {device : Device} {models : Path}
  {files : List (String × Json)}

/-- Writes a value to the file of its name in a folder. -/
def writeInto (models : Path) (x : String × Json) (device : Device := .sound) : Act Path := do
  writeJson (models.join x.1) x.2 device
  return models.join x.1

/-- The file of a name in a folder, with the bytes that a value is written as. -/
def fileIn (models : Path) (x : String × Json) : Path × List UInt8 :=
  (models.join x.1, Text.Utf8.encode (writtenText x.2).toList)

/-- What lies where a value was to be written, if that failed so: the file is not touched, or it
holds first bytes of what was to be written. -/
inductive Failure.Leaves (e : Failure) (models : Path) (x : String × Json) :
    List (Path × List UInt8) → Prop where
  | nothing (cause : e.IsOfWriting) : Leaves e models x []
  | firstBytes {arrived : List UInt8} (cause : e.BrokenOff (models.join x.1))
      (first : arrived <+: (fileIn models x).2) : Leaves e models x [(models.join x.1, arrived)]

/-- How writing values into a folder, one after another, may end: all are written, or those before
one that is not. -/
inductive FilesEnd (models : Path) (files : List (String × Json)) (d : Disk) :
    Except Failure (List Path) → Disk → Prop where
  | written {d' : Disk} (writes : Disk.Writes models (files.map (fileIn models)) d d') :
      FilesEnd models files d (.ok (files.map (models.join ·.1))) d'
  | failed {e : Failure} {written rest : List (String × Json)} {x : String × Json}
      {left : List (Path × List UInt8)} {d' : Disk} (split : files = written ++ x :: rest)
      (leaves : e.Leaves models x left)
      (writes : Disk.Writes models (written.map (fileIn models) ++ left) d d') :
      FilesEnd models files d (.error e) d'

theorem writeInto_cases {x : String × Json} {result : Except Failure Path}
    (hname : IsEntryName x.1) (hfolder : s.disk.isFolder models = true)
    (h : (writeInto models x device).runIn around s = (result, s')) :
    (result = .ok (models.join x.1) ∧ Disk.Writes models [fileIn models x] s.disk s'.disk)
      ∨ ∃ e left, result = .error e ∧ e.Leaves models x left
        ∧ Disk.Writes models left s.disk s'.disk := by
  rw [writeInto, Act.runIn_bind] at h
  cases hwrite : (writeJson (models.join x.1) x.2 device).runIn around s with
  | mk made s₁ =>
    have hends := Act.writeJson_ends hwrite
    rw [hwrite] at h
    have hparent := models.parent_join hname.1
    cases made with
    | ok _ =>
      cases h
      generalize s'.disk = d' at hends ⊢
      cases hends with
      | written hwrites =>
        rw [hparent] at hwrites
        exact .inl ⟨rfl, hwrites⟩
    | error e =>
      cases h
      generalize s'.disk = d' at hends ⊢
      cases hends with
      | failed hcause hfolders hthere =>
        rw [hparent] at hthere
        rw [hthere hfolder]
        exact .inr ⟨e, [], rfl, .nothing hcause, .refl models _⟩
      | brokenOff hcause hfirst hwrites =>
        rw [hparent] at hwrites
        exact .inr ⟨e, _, rfl, .firstBytes hcause hfirst, hwrites⟩

/-- The file lies in the folder under the name of one of the values. -/
def IsNamed (models : Path) (files : List (String × Json)) (file : Path × List UInt8) : Prop :=
  ∃ x ∈ files, file.1 = models.join x.1

/-- What is written into a folder behind a file of another name leaves that file alone. -/
theorem writes_fileIn_cons {x : String × Json} {later : List (Path × List UInt8)}
    {d d' d'' : Disk} (hname : IsEntryName x.1) (hnames : ∀ y ∈ files, IsEntryName y.1)
    (hfresh : x.1 ∉ files.map (·.1)) (hlater : ∀ file ∈ later, IsNamed models files file)
    (hfile : Disk.Writes models [fileIn models x] d d')
    (hfiles : Disk.Writes models later d' d'') :
    Disk.Writes models (fileIn models x :: later) d d'' := by
  have hread : d'.read (models.join x.1) = .ok (fileIn models x).2 :=
    hfile.written (fileIn models x) List.mem_cons_self
  have hthere : d''.isFile (models.join x.1) = true :=
    hfiles.grows.isFile (Disk.isFile_iff_read.mpr ⟨_, hread⟩)
  refine hfile.trans hfiles fun file hmem file' hmem' => ?_
  obtain ⟨y, hy, hplace⟩ := hlater file' hmem'
  have hne : x.1 ≠ y.1 := fun heq => hfresh (heq ▸ List.mem_map_of_mem hy)
  rw [List.mem_singleton.mp hmem, hplace]
  exact Disk.locate_ne_of_ne hname hne (hnames y hy) hthere

theorem isNamed_of_mem_map : ∀ file ∈ files.map (fileIn models), IsNamed models files file :=
  List.forall_mem_map.mpr fun x hx => ⟨x, hx, rfl⟩

/-- What is left of values that are written one after another are files of their names. -/
theorem Failure.Leaves.isNamed {e : Failure} {x : String × Json} {left : List (Path × List UInt8)}
    (h : e.Leaves models x left) (hx : x ∈ files) : ∀ file ∈ left, IsNamed models files file := by
  cases h with
  | nothing _ => exact nofun
  | firstBytes _ _ =>
    intro file hfile
    exact ⟨x, hx, by rw [List.mem_singleton.mp hfile]⟩

/-- One value was written before the others. -/
theorem FilesEnd.cons {x : String × Json} {d d' d'' : Disk} {result : Except Failure (List Path)}
    (hname : IsEntryName x.1) (hnames : ∀ y ∈ files, IsEntryName y.1)
    (hfresh : x.1 ∉ files.map (·.1)) (hfile : Disk.Writes models [fileIn models x] d d')
    (h : FilesEnd models files d' result d'') :
    FilesEnd models (x :: files) d (result.map (models.join x.1 :: ·)) d'' := by
  cases h with
  | written hwrites =>
    exact .written (writes_fileIn_cons hname hnames hfresh isNamed_of_mem_map hfile hwrites)
  | @failed e written rest y left _ hsplit hleaves hwrites =>
    have hlater : ∀ file ∈ written.map (fileIn models) ++ left, IsNamed models files file := by
      rw [hsplit]
      refine List.forall_mem_append.mpr ⟨fun file hfile => ?_, hleaves.isNamed (by simp)⟩
      obtain ⟨z, hz, hplace⟩ := isNamed_of_mem_map file hfile
      exact ⟨z, List.mem_append_left _ hz, hplace⟩
    have hsplit' : x :: files = (x :: written) ++ y :: rest := by rw [hsplit, List.cons_append]
    exact .failed hsplit' hleaves (writes_fileIn_cons hname hnames hfresh hlater hfile hwrites)

/-- Values are written into a folder until one cannot be. -/
theorem mapM_writeInto_ends {result : Except Failure (List Path)}
    (hnames : ∀ x ∈ files, IsEntryName x.1) (hdistinct : (files.map (·.1)).Nodup)
    (hfolder : s.disk.isFolder models = true)
    (h : (files.mapM (writeInto models · device)).runIn around s = (result, s')) :
    FilesEnd models files s.disk result s'.disk := by
  induction files generalizing s s' result with
  | nil =>
    rw [List.mapM_nil] at h
    cases h
    exact .written (.refl models _)
  | cons x files ih =>
    obtain ⟨hname, hnames⟩ := List.forall_mem_cons.mp hnames
    obtain ⟨hfresh, hdistinct⟩ := List.nodup_cons.mp hdistinct
    rw [List.mapM_cons, Act.runIn_bind] at h
    cases hstep : (writeInto models x device).runIn around s with
    | mk made s₁ =>
      rw [hstep] at h
      rcases writeInto_cases hname hfolder hstep with ⟨rfl, hfile⟩ | ⟨e, left, rfl, hleaves, hwrites⟩
      · dsimp only at h
        rw [Act.runIn_bind] at h
        cases hmore : (files.mapM (writeInto models · device)).runIn around s₁ with
        | mk results s₂ =>
          have hends := (ih hnames hdistinct (hfile.grows.isFolder hfolder) hmore).cons hname
            hnames hfresh hfile
          rw [hmore] at h
          cases results <;> cases h <;> exact hends
      · cases h
        have hsplit : x :: files = [] ++ x :: files := rfl
        exact .failed hsplit hleaves hwrites

theorem Builtin.isEntryName_of_mem (components : List String) :
    ∀ x ∈ Builtin.files components, IsEntryName x.1 := by
  intro x hx
  have hname : x.1 ∈ fileNames := map_fst_files components ▸ List.mem_map_of_mem hx
  refine ⟨isFileName_of_mem _ hname, fun hdots => ?_⟩
  rw [hdots] at hname
  exact absurd hname (by decide)

theorem Builtin.nodup_fileNames : fileNames.Nodup := by decide

/-- How writing the files that every project needs may end, and what it does to the disk. -/
inductive BaseConfigs.Ends (models : Path) (blockNames : List Json) (d : Disk) :
    Except Failure BaseConfigs → Disk → Prop where
  /-- The folder of the blocks cannot be made, or the names are no names of blocks. -/
  | refused {e : Failure} {d' : Disk}
      (cause : e.IsOfWriting ∨ ∃ found, Builtin.sectionComponents blockNames = .issues found
        ∧ e = .blockNames found)
      (folders : Disk.Writes (models.join "blocks") [] d d') : Ends models blockNames d (.error e) d'
  /-- One of the files cannot be written, or not all of it. -/
  | failed {e : Failure} {components : List String} {written rest : List (String × Json)}
      {x : String × Json} {left : List (Path × List UInt8)} {d' : Disk}
      (read : Builtin.sectionComponents blockNames = .ok components)
      (split : Builtin.files components = written ++ x :: rest) (leaves : e.Leaves models x left)
      (writes : Disk.Writes (models.join "blocks") (written.map (fileIn models) ++ left) d d') :
      Ends models blockNames d (.error e) d'
  | written {components : List String} {d' : Disk}
      (read : Builtin.sectionComponents blockNames = .ok components)
      (writes : Disk.Writes (models.join "blocks") ((Builtin.files components).map (fileIn models))
        d d') :
      Ends models blockNames d (.ok ⟨Builtin.fileNames.map models.join⟩) d'

/-- Where the folder of the blocks is made, the one it lies in is there too. -/
theorem isFolder_of_isFolder_blocks {d : Disk} (h : d.isFolder (models.join "blocks") = true) :
    d.isFolder models = true :=
  Disk.isFolder_of_isFolder_join Builtin.isFileName_blocks h

/-- With the folders there, the ends differ by what comes of the files. -/
theorem BaseConfigs.ends_of_files {blockNames : List Json} {components : List String} {d d' : Disk}
    {result : Except Failure (List Path)}
    (hread : Builtin.sectionComponents blockNames = .ok components)
    (hfolders : Disk.Writes (models.join "blocks") [] d d')
    (h : FilesEnd models (Builtin.files components) d' result s'.disk) :
    BaseConfigs.Ends models blockNames d (result.map BaseConfigs.mk) s'.disk := by
  have hjoin := models.join_of_isFileName Builtin.isFileName_blocks
  have hbehind {files : List (Path × List UInt8)} {d'' : Disk}
      (hwrites : Disk.Writes models files d' d'') :
      Disk.Writes (models.join "blocks") files d d'' :=
    hfolders.behindFolders <| hwrites.longer (by rw [hjoin])
      (by rw [hjoin]; exact List.prefix_append _ _)
  generalize s'.disk = d'' at h ⊢
  cases h with
  | failed hsplit hleaves hwrites => exact .failed hread hsplit hleaves (hbehind hwrites)
  | written hwrites =>
    rw [Builtin.map_join_files]
    exact .written hread (hbehind hwrites)

theorem writeBaseConfigs_ends (project : String) (blockNames : List Json) (device : Device)
    (around : Surroundings) (s : Session) :
    BaseConfigs.Ends (modelsPath around.environment (.ofString project)) blockNames s.disk
      ((writeBaseConfigs project blockNames device).runIn around s).1
      ((writeBaseConfigs project blockNames device).runIn around s).2.disk := by
  have henv : Act.environment.runIn around s = (.ok around.environment, s) := rfl
  unfold writeBaseConfigs
  rw [Act.runIn_bind, henv]
  dsimp only
  generalize modelsPath around.environment (.ofString project) = models
  rw [Act.runIn_bind]
  cases hmade : (Act.ensureFolders (models.join "blocks") device).runIn around s with
  | mk made s₁ =>
    obtain ⟨hcause, hfolders, -⟩ := Act.ensureFolders_cases hmade
    cases made with
    | error e => exact .refused (.inl (hcause e rfl)) hfolders
    | ok _ =>
      dsimp only
      cases hcomponents : Builtin.sectionComponents blockNames with
      | issues found => exact .refused (.inr ⟨found, hcomponents, rfl⟩) hfolders
      | ok components =>
        dsimp only
        have hpure (s : Session) :
            (pure components : Act (List String)).runIn around s = (.ok components, s) := rfl
        rw [Act.runIn_bind, hpure]
        dsimp only
        rw [Act.runIn_bind]
        have hmodels := isFolder_of_isFolder_blocks (Act.ensureFolders_eq_ok hmade).2.2
        cases hfiles : ((Builtin.files components).mapM (writeInto models · device)).runIn around
            s₁ with
        | mk result s' =>
          have hends := BaseConfigs.ends_of_files hcomponents hfolders <| mapM_writeInto_ends
            (Builtin.isEntryName_of_mem components)
            (Builtin.map_fst_files components ▸ Builtin.nodup_fileNames) hmodels hfiles
          generalize hprogram : ((Builtin.files components).mapM _ : Act (List Path)) = program
          have hrun : program.runIn around s₁ = (result, s') := by
            rw [← hprogram]
            exact hfiles
          rw [hrun]
          cases result with
          | error e => exact hends
          | ok places => exact hends

end

/-! ## Failures -/

/-- What an order that fails may leave: nothing; or new folders on the way to its file, if the file
could not be written and its folder was missing; or the file with its first bytes, if the device
stopped in the middle of it. -/
inductive GenerationOrder.MayLeave (o : GenerationOrder) (around : Surroundings) (s : Session) :
    Failure → Disk → Prop where
  | nothing {e : Failure} : MayLeave o around s e s.disk
  | folders {e : Failure} {d' : Disk} (preview : o.preview = false) (cause : e.IsOfWriting)
      (missing : s.disk.isFolder (o.target around.environment).parent = false)
      (folders : Disk.Writes (o.target around.environment).parent [] s.disk d') :
      MayLeave o around s e d'
  | firstBytes {e : Failure} {code : String} {block : GeneratedBlock} {arrived : List UInt8}
      {d' : Disk} (preview : o.preview = false)
      (cause : e.BrokenOff (o.target around.environment))
      (found : ((meantCode o.place o.blockName o.code).runIn around s).1 = .ok code)
      (made : GeneratedBlock.ofCode o.blockName code o.wishes = .ok block)
      (first : arrived <+: Text.Utf8.encode (writtenText block.schema.toJson).toList)
      (writes : Disk.Writes (o.target around.environment).parent
        [(o.target around.environment, arrived)] s.disk d') :
      MayLeave o around s e d'

/-- What writing the files that every project needs may leave if it fails: new folders on the way to
the blocks; and, if a file could not be written, those before it and what is left of it. -/
inductive BaseConfigs.MayLeave (models : Path) (blockNames : List Json) (d : Disk) :
    Failure → Disk → Prop where
  | folders {e : Failure} {d' : Disk} (folders : Disk.Writes (models.join "blocks") [] d d') :
      MayLeave models blockNames d e d'
  | files {e : Failure} {components : List String} {written rest : List (String × Json)}
      {x : String × Json} {left : List (Path × List UInt8)} {d' : Disk}
      (read : Builtin.sectionComponents blockNames = .ok components)
      (split : Builtin.files components = written ++ x :: rest) (leaves : e.Leaves models x left)
      (writes : Disk.Writes (models.join "blocks") (written.map (fileIn models) ++ left) d d') :
      MayLeave models blockNames d e d'

section

variable {device : Device} {around : Surroundings} {s s' : Session} {e : Failure}

theorem GenerationOrder.mayLeave_of_error {o : GenerationOrder}
    (h : (o.run device).runIn around s = (.error e, s')) : o.MayLeave around s e s'.disk := by
  have hends : o.Ends around s (.error e) s'.disk := by
    simpa only [h] using o.run_ends device around s
  generalize s'.disk = d' at hends ⊢
  cases hends with
  | refused _ => exact .nothing
  | failed hpreview hfound hmade hfailed =>
    cases hfailed with
    | brokenOff hcause hfirst hwrites =>
      exact .firstBytes hpreview hcause hfound hmade hfirst hwrites
    | failed hcause hfolders hthere =>
      cases hparent : s.disk.isFolder (o.target around.environment).parent with
      | true =>
        rw [hthere hparent]
        exact .nothing
      | false => exact .folders hpreview hcause hparent hfolders

theorem BaseConfigs.mayLeave_of_error {project : String} {blockNames : List Json}
    (h : (writeBaseConfigs project blockNames device).runIn around s = (.error e, s')) :
    MayLeave (modelsPath around.environment (.ofString project)) blockNames s.disk e s'.disk := by
  have hends : BaseConfigs.Ends (modelsPath around.environment (.ofString project)) blockNames
      s.disk (.error e) s'.disk := by
    simpa only [h] using writeBaseConfigs_ends project blockNames device around s
  cases hends with
  | refused _ hfolders => exact .folders hfolders
  | failed hread hsplit hleaves hwrites => exact .files hread hsplit hleaves hwrites

/-- **A failure leaves little.** Whatever the device does: an order that fails leaves the disk as it
was, but if its file could not be written there may be new folders on the way to it, and if the
device stopped in the middle of the file, the file holds its first bytes. Of the files that every
project needs, a failure leaves some of the first ones, written in full, in a folder that may be
new, and of the next one first bytes at most. Nothing else is different. -/
theorem failure_leaves (device : Device) (around : Surroundings) (s : Session) :
    (∀ (o : GenerationOrder) e s', (o.run device).runIn around s = (.error e, s') →
      o.MayLeave around s e s'.disk)
    ∧ ∀ project blockNames e s',
      (writeBaseConfigs project blockNames device).runIn around s = (.error e, s') →
        BaseConfigs.MayLeave (modelsPath around.environment (.ofString project)) blockNames
          s.disk e s'.disk :=
  ⟨fun _ _ _ h => GenerationOrder.mayLeave_of_error h,
    fun _ _ _ _ h => BaseConfigs.mayLeave_of_error h⟩

/-- An order to write to a folder that is reached by a detour. -/
def detourOrder : GenerationOrder :=
  { blockName := "hero", code := some "", outputPath := some "out/.." }

/-- A session in a project in which a folder lies where a file is to be written. -/
def Session.folderInTheWay : Session :=
  { disk := ⟨[(["work"], .folder), (["work", "ue"], .folder), (["work", "ue", "models"], .folder),
      (["work", "ue", "models", "section.json"], .folder)], ["work"]⟩ }

/-- A device that has no space for the first byte of a file. -/
def Device.full : Device where
  making _ _ := none
  opening _ _ := none
  filling _ _ _ := some (0, ⟨28, "No space left on device"⟩)

/-- An order to write over a schema. -/
def overwriteOrder : GenerationOrder :=
  { blockName := "hero", code := some "", outputPath := some "hero.json" }

/-- A session in a project in which the schema of a block lies. -/
def Session.oldSchema : Session :=
  { disk := ⟨[(["work"], .folder), (["work", "hero.json"], .file (Text.Utf8.encode "[]".toList))],
      ["work"]⟩ }

theorem run_detourOrder_fails :
    (detourOrder.run.runIn .offline .emptyProject).1.isOk = false := by
  decide +kernel

theorem writeBaseConfigs_folderInTheWay_fails :
    ((writeBaseConfigs "." []).runIn .offline .folderInTheWay).1.isOk = false := by
  decide +kernel

theorem run_overwriteOrder_fails :
    ((overwriteOrder.run .full).runIn .offline .oldSchema).1.isOk = false := by
  decide +kernel

theorem failure_leaves_inTheWay :
    (∃ e s', detourOrder.run.runIn .offline .emptyProject = (.error e, s')
      ∧ detourOrder.MayLeave .offline .emptyProject e s'.disk)
    ∧ (∃ e s', (overwriteOrder.run .full).runIn .offline .oldSchema = (.error e, s')
      ∧ overwriteOrder.MayLeave .offline .oldSchema e s'.disk)
    ∧ ∃ e s', (writeBaseConfigs "." []).runIn .offline .folderInTheWay = (.error e, s')
      ∧ BaseConfigs.MayLeave (modelsPath [] (.ofString ".")) [] Session.folderInTheWay.disk e
          s'.disk := by
  obtain ⟨e, hrun⟩ := exists_eq_error_of_isOk run_detourOrder_fails
  obtain ⟨e', hrun'⟩ := exists_eq_error_of_isOk run_overwriteOrder_fails
  obtain ⟨e'', hrun''⟩ := exists_eq_error_of_isOk writeBaseConfigs_folderInTheWay_fails
  exact ⟨⟨e, _, hrun, (failure_leaves .sound .offline .emptyProject).1 _ _ _ hrun⟩,
    ⟨e', _, hrun', (failure_leaves .full .offline .oldSchema).1 _ _ _ hrun'⟩,
    ⟨e'', _, hrun'', (failure_leaves .sound .offline .folderInTheWay).2 _ _ _ _ hrun''⟩⟩

/-- The folder of the detour stays, though nothing is written. So do the files before the one that
cannot be written. On a full device, the schema that was there is gone. -/
theorem failures_leave_traces :
    (∃ e s', detourOrder.run.runIn .offline .emptyProject = (.error e, s')
      ∧ Session.emptyProject.disk.node? ["work", "out"] = none
      ∧ s'.disk.node? ["work", "out"] = some .folder)
    ∧ (∃ e s', (writeBaseConfigs "." []).runIn .offline .folderInTheWay = (.error e, s')
      ∧ Session.folderInTheWay.disk.isFile (.ofString "ue/models/page.json") = false
      ∧ s'.disk.isFile (.ofString "ue/models/page.json") = true)
    ∧ ∃ e s', (overwriteOrder.run .full).runIn .offline .oldSchema = (.error e, s')
      ∧ Session.oldSchema.disk.read (.ofString "hero.json") = .ok (Text.Utf8.encode "[]".toList)
      ∧ s'.disk.read (.ofString "hero.json") = .ok [] := by
  obtain ⟨e, hrun⟩ := exists_eq_error_of_isOk run_detourOrder_fails
  obtain ⟨e', hrun'⟩ := exists_eq_error_of_isOk writeBaseConfigs_folderInTheWay_fails
  obtain ⟨e'', hrun''⟩ := exists_eq_error_of_isOk run_overwriteOrder_fails
  exact ⟨⟨e, _, hrun, rfl, by decide +kernel⟩,
    ⟨e', _, hrun', by decide +kernel, by decide +kernel⟩,
    ⟨e'', _, hrun'', by decide +kernel, by decide +kernel⟩⟩

end

end BlockAuthoring
