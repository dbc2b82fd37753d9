import BlockAuthoring.Proofs.Tool.Leftover

/-!
# What a success touches

What is only shown changes nothing on the disk, whatever comes of it. What is written is its target,
in full; and what is new besides are folders that lead there.
-/

namespace BlockAuthoring

section

variable {around : Surroundings} {s s' : Session}

namespace GenerationOrder

variable {o : GenerationOrder}

/-- An order that is only to be shown does not get to writing. -/
theorem disk_of_preview (hpreview : o.preview = true) (around : Surroundings) (s : Session) :
    (o.run.runIn around s).2.disk = s.disk := by
  have hends := o.run_ends .sound around s
  generalize (o.run.runIn around s).1 = result, (o.run.runIn around s).2.disk = d' at hends ⊢
  cases hends with
  | refused _ | shown _ => rfl
  | failed hwrite _ _ _ | written hwrite _ => cases hpreview.symm.trans hwrite

/-- What an order writes, if a result comes of it. -/
def file (env : Environment) (o : GenerationOrder) (r : GenerationResult) : Path × List UInt8 :=
  (o.target env, Text.Utf8.encode (writtenText r.block.schema.toJson).toList)

theorem writes_of_run {r : GenerationResult} (hwrite : o.preview = false)
    (h : o.run.runIn around s = (.ok r, s')) :
    Disk.Writes (o.target around.environment).parent [o.file around.environment r]
      s.disk s'.disk := by
  have hends : o.Ends around s (.ok r) s'.disk := by
    simpa only [h] using o.run_ends .sound around s
  generalize s'.disk = d' at hends ⊢
  cases hends with
  | shown hpreview => cases hwrite.symm.trans hpreview
  | written _ hwrites => exact hwrites

end GenerationOrder

/-- What is written for every project are its files, all in the folder of the models. -/
theorem BaseConfigs.writes_of_run {project : String} {blockNames : List Json} {c : BaseConfigs}
    (h : (writeBaseConfigs project blockNames).runIn around s = (.ok c, s')) :
    c.created = Builtin.fileNames.map (modelsPath around.environment (.ofString project)).join
      ∧ ∃ components, Builtin.sectionComponents blockNames = .ok components
        ∧ Disk.Writes ((modelsPath around.environment (.ofString project)).join "blocks")
            ((Builtin.files components).map
              (fileIn (modelsPath around.environment (.ofString project))))
            s.disk s'.disk := by
  have hends : BaseConfigs.Ends (modelsPath around.environment (.ofString project)) blockNames
      s.disk (.ok c) s'.disk := by
    simpa only [h] using writeBaseConfigs_ends project blockNames .sound around s
  cases hends with
  | written hread hwrites => exact ⟨rfl, _, hread, hwrites⟩

/-- **Only targets are touched.** An order that is only to be shown leaves the disk as it is, also
if it fails. If a schema is written, then the file that the result names is written in full, folders
are made only on the way to it, and whatever else lies on the disk is what it was. So it is with the
files that every project needs, and the folder of the blocks. -/
theorem changes_only_targets (around : Surroundings) (s : Session) :
    (∀ o : GenerationOrder, o.preview = true → (o.run.runIn around s).2.disk = s.disk)
    ∧ (∀ (o : GenerationOrder) r s', o.preview = false → o.run.runIn around s = (.ok r, s') →
      r.file = some (o.target around.environment)
        ∧ Disk.Writes (o.target around.environment).parent [o.file around.environment r]
            s.disk s'.disk)
    ∧ ∀ project blockNames c s',
      (writeBaseConfigs project blockNames).runIn around s = (.ok c, s') →
        c.created = Builtin.fileNames.map (modelsPath around.environment (.ofString project)).join
        ∧ ∃ components, Builtin.sectionComponents blockNames = .ok components
          ∧ Disk.Writes ((modelsPath around.environment (.ofString project)).join "blocks")
              ((Builtin.files components).map
                (fileIn (modelsPath around.environment (.ofString project))))
              s.disk s'.disk :=
  ⟨fun _ hpreview => GenerationOrder.disk_of_preview hpreview around s,
    fun _ _ _ hwrite h => ⟨(GenerationOrder.run_eq_ok hwrite h).2.1,
      GenerationOrder.writes_of_run hwrite h⟩,
    fun _ _ _ _ h => BaseConfigs.writes_of_run h⟩

/-- An order to write, or only to show, the schema of a block with three columns. -/
def columnsOrder (preview : Bool) : GenerationOrder :=
  { blockName := "columns", code := some "block.children[2];", preview }

theorem changes_only_targets_columns :
    ((columnsOrder true).preview = true
      ∧ ((columnsOrder true).run.runIn .offline .emptyProject).2.disk = Session.emptyProject.disk)
    ∧ (∃ r s', (columnsOrder false).preview = false
      ∧ (columnsOrder false).run.runIn .offline .emptyProject = (.ok r, s')
      ∧ Disk.Writes ((columnsOrder false).target []).parent [(columnsOrder false).file [] r]
          Session.emptyProject.disk s'.disk)
    ∧ ∃ c s', (writeBaseConfigs "." [.string "columns"]).runIn .offline .emptyProject = (.ok c, s')
      ∧ c.created = Builtin.fileNames.map (modelsPath [] (.ofString ".")).join := by
  have hrun : ((columnsOrder false).run.runIn .offline .emptyProject).1.isOk = true := by
    decide +kernel
  have hwrite : ((writeBaseConfigs "." [.string "columns"]).runIn .offline
      .emptyProject).1.isOk = true := by
    decide +kernel
  obtain ⟨r, hrun⟩ := exists_eq_ok_of_isOk hrun
  obtain ⟨c, hwrite⟩ := exists_eq_ok_of_isOk hwrite
  obtain ⟨hshown, hmade, hbase⟩ := changes_only_targets .offline .emptyProject
  exact ⟨⟨rfl, hshown _ rfl⟩, ⟨r, _, rfl, hrun, (hmade _ _ _ rfl hrun).2⟩,
    ⟨c, _, hwrite, (hbase _ _ _ _ hwrite).1⟩⟩

end

end BlockAuthoring
