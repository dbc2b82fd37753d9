import BlockAuthoring.Proofs.Tool.Effect

/-!
# Where a schema is written

Making a schema touches one file, and makes no folders but those that lead to it. Unless somebody
says otherwise, the file lies in the folder of the schemas if the name of the block is one that a
folder can have. The name of a block whose code is given is not looked up, though, and with slashes
it leads out of that folder.
-/

namespace BlockAuthoring

open BlockAuthoring.Path (IsEntryName)

/-! ## Staying in a folder -/

section

variable {d d' : Disk} {folder : Path} {name : String} {files : List (Path × List UInt8)}

/-- All that is different on the second disk is the file of a name in a folder, and new folders:
that folder and those it lies in. -/
def Disk.ConfinedTo (folder : Path) (name : String) (d d' : Disk) : Prop :=
  ∀ l, d'.node? l ≠ d.node? l →
    (∃ k bytes, d'.locate folder = .ok k ∧ l = k ++ [name] ∧ d'.node? l = some (.file bytes))
      ∨ d.node? l = none ∧ d'.node? l = some .folder ∧ d'.OnWay folder l

theorem Disk.Writes.confinedTo (hname : IsEntryName name)
    (hfiles : ∀ file ∈ files, file.1 = folder.join name) (h : Disk.Writes folder files d d') :
    Disk.ConfinedTo folder name d d' := by
  intro l hl
  rcases h.others l with hsame | hfolder | ⟨file, hfile, hlocate⟩
  · exact absurd hsame hl
  · exact .inr hfolder
  · obtain ⟨k', hk', hnode⟩ := Disk.read_eq_ok_iff.mp (h.written file hfile)
    cases hk'.symm.trans hlocate
    rw [hfiles file hfile] at hlocate
    obtain ⟨k, hk, rfl⟩ := Disk.locate_inside hname hlocate
    exact .inl ⟨k, _, hk, rfl, hnode⟩

/-- Where a new file lies in another folder, the change is not confined. -/
theorem Disk.not_confinedTo {l k : Location} {bytes : List UInt8}
    (hfolder : d'.locate folder = .ok k) (hfile : d'.node? l = some (.file bytes))
    (hnew : d.node? l = none) (hout : l.dropLast ≠ k) :
    ¬ Disk.ConfinedTo folder name d d' := by
  intro h
  rcases h l (by rw [hfile, hnew]; exact nofun) with ⟨k', _, hk', rfl, -⟩ | ⟨-, hnode, -⟩
  · cases hfolder.symm.trans hk'
    exact hout List.dropLast_concat
  · cases hfile.symm.trans hnode

end

/-! ## Schemas -/

namespace GenerationOrder

variable {o : GenerationOrder}

/-- Whatever comes of an order, no file is touched but its target, and folders are made on the way
to it only. -/
theorem exists_writes_of_run (o : GenerationOrder) (device : Device) (around : Surroundings)
    (s : Session) :
    ∃ files, (∀ file ∈ files, file.1 = o.target around.environment)
      ∧ Disk.Writes (o.target around.environment).parent files s.disk
          ((o.run device).runIn around s).2.disk := by
  have hends := o.run_ends device around s
  generalize ((o.run device).runIn around s).1 = result,
    ((o.run device).runIn around s).2.disk = d' at hends ⊢
  cases hends with
  | refused _ | shown _ => exact ⟨[], nofun, .refl _ _⟩
  | failed _ _ _ hfailed =>
    cases hfailed with
    | failed _ hfolders _ => exact ⟨[], nofun, hfolders⟩
    | brokenOff _ _ hwrites =>
      exact ⟨_, fun file hfile => by rw [List.mem_singleton.mp hfile], hwrites⟩
  | written _ hwrites => exact ⟨_, fun file hfile => by rw [List.mem_singleton.mp hfile], hwrites⟩

/-- **Schemas stay in their folder.** Whatever the project, the environment and the code are: if
nobody says where to write the schema and the name of the block has no slash, then nothing is
different afterwards but one file in the folder of the schemas, and new folders that lead there. -/
theorem run_confined (houtput : o.outputPath = none) (hname : '/' ∉ o.blockName.toList)
    (around : Surroundings) (s : Session) :
    Disk.ConfinedTo ((modelsPath around.environment (.ofString o.place.projectPath)).join "blocks")
      (o.blockName ++ ".json") s.disk (o.run.runIn around s).2.disk := by
  have hentry : IsEntryName (o.blockName ++ ".json") :=
    Path.isEntryName_append hname (by decide) (by decide)
  have htarget : o.target around.environment
      = ((modelsPath around.environment (.ofString o.place.projectPath)).join "blocks").join
          (o.blockName ++ ".json") := by
    rw [target, houtput]
    rfl
  obtain ⟨files, hfiles, hwrites⟩ := o.exists_writes_of_run .sound around s
  rw [htarget, Path.parent_join _ hentry.1] at hwrites
  exact hwrites.confinedTo hentry fun file hfile => (hfiles file hfile).trans htarget

/-- An order for a block of a name, with an empty code. -/
def named (blockName : String) : GenerationOrder := { blockName, code := some "" }

theorem run_confined_dots :
    (named "..").outputPath = none ∧ '/' ∉ (named "..").blockName.toList
      ∧ Disk.ConfinedTo ((modelsPath [] (.ofString ".")).join "blocks") (".." ++ ".json")
          Session.emptyProject.disk ((named "..").run.runIn .offline .emptyProject).2.disk := by
  have hname : '/' ∉ (named "..").blockName.toList := by decide
  exact ⟨rfl, hname, run_confined (o := named "..") rfl hname .offline .emptyProject⟩

/-- The name leads from the folder of the schemas to the file of the page. -/
theorem run_named_page :
    ((named "../page").run.runIn .offline .emptyProject).1.isOk = true
      ∧ ((named "../page").run.runIn .offline .emptyProject).2.disk.isFile
        (.ofString "ue/models/page.json") = true
      ∧ ((named "../page").run.runIn .offline .emptyProject).2.disk.locate
        (.ofString "ue/models/page.json") = .ok ["work", "ue", "models", "page.json"]
      ∧ ((named "../page").run.runIn .offline .emptyProject).2.disk.locate
        ((modelsPath [] (.ofString ".")).join "blocks")
          = .ok ["work", "ue", "models", "blocks"] := by
  decide +kernel

/-- A name with a slash leads out of the folder, to a file that every project needs. -/
theorem run_leaves_folder :
    ∃ r s', (named "../page").run.runIn .offline .emptyProject = (.ok r, s')
      ∧ s'.disk.isFile (.ofString "ue/models/page.json") = true
      ∧ ∀ name, ¬ Disk.ConfinedTo ((modelsPath [] (.ofString ".")).join "blocks") name
          Session.emptyProject.disk s'.disk := by
  obtain ⟨hok, hisFile, hpage, hblocks⟩ := run_named_page
  obtain ⟨r, hrun⟩ := exists_eq_ok_of_isOk hok
  refine ⟨r, _, hrun, hisFile, fun name => ?_⟩
  obtain ⟨bytes, hfind⟩ := Disk.isFile_iff.mp hisFile
  rw [Disk.find?, hpage] at hfind
  exact Disk.not_confinedTo hblocks hfind rfl (by decide)

end GenerationOrder

end BlockAuthoring
