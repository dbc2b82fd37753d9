import BlockAuthoring.Proofs.Schema.Writing
import BlockAuthoring.Proofs.Tool.Performing
import BlockAuthoring.Proofs.Tool.Targets

/-!
# What the writing tools store

Once the code is known, what the writing tools give does not depend on the disk: they only store
files. Those of different blocks lie apart, and apart from the files that every project needs.
-/

namespace BlockAuthoring

open Act
open BlockAuthoring.Path (IsEntryName)

/-! ## What the tools store -/

section

variable {around : Surroundings} {s s' : Session}

/-- Values that are written into a folder one after another are stored there, if the folder is
there. -/
theorem inTurn_stores_iff {models : Path} {values : List (String × Json)} {d d' : Disk}
    (hfolder : d.isFolder models = true) :
    inTurn (fun x => Disk.Stores models [fileIn models x]) values d d'
      ↔ d.putFiles (values.map (fileIn models)) = .ok d' := by
  induction values generalizing d with
  | nil =>
    rw [inTurn, List.map_nil, Disk.putFiles_nil, Except.ok.injEq]
  | cons x values ih =>
    rw [inTurn, List.map_cons, Disk.putFiles_cons_iff]
    refine exists_congr fun d₁ => ?_
    rw [Disk.Stores.of_isFolder hfolder]
    have hfirst : d.putFiles [fileIn models x]
        = d.putFile (fileIn models x).1 (fileIn models x).2 := Disk.putFiles_singleton _ _ _
    rw [hfirst]
    refine and_congr_right fun hwritten => ih ?_
    exact (Disk.SameFolders.of_putFile hwritten).isFolder hfolder

/-- What is written for every project is stored in the folder of the models. -/
theorem performs_writeBaseConfigs {project : String} {blockNames : List Json}
    {components : List String} (hread : Builtin.sectionComponents blockNames = .ok components)
    (hnull : (modelsPath around.environment (.ofString project)).holdsNull = false) :
    Performs (writeBaseConfigs project blockNames) around
      ⟨Builtin.fileNames.map (modelsPath around.environment (.ofString project)).join⟩
      (Disk.Stores ((modelsPath around.environment (.ofString project)).join "blocks")
        ((Builtin.files components).map
          (fileIn (modelsPath around.environment (.ofString project))))) := by
  unfold writeBaseConfigs
  rw [hread]
  refine performs_environment.after ?_
  dsimp only
  generalize modelsPath around.environment (.ofString project) = models at hnull ⊢
  have hwriteInto (x : String × Json) (hx : x ∈ Builtin.files components) :
      Performs (writeInto models x) around (models.join x.1)
        (Disk.Stores models [fileIn models x]) := by
    have hname : x.1 ∈ Builtin.fileNames :=
      Builtin.map_fst_files components ▸ List.mem_map_of_mem hx
    have hwritten : Performs (writeJson (models.join x.1) x.2) around ()
        (Disk.Stores (models.join x.1).parent [fileIn models x]) :=
      performs_writeJson ((Builtin.holdsNull_join_of_mem models hname).trans hnull)
        (Builtin.isWritable_of_mem components x hx)
    rw [models.parent_join (Builtin.isEntryName_of_mem components x hx).1] at hwritten
    exact hwritten.before (performs_pure _)
  rw [← Builtin.map_join_files models components]
  have hlogged (line : LogLine) (c : BaseConfigs) :
      Performs (do log line; return c) around c Eq := (performs_log line).after (performs_pure c)
  refine ((performs_ensureFolders ((Builtin.holdsNull_join_blocks models).trans hnull)).bind
    ((performs_pure components).after
      ((performs_mapM _ hwriteInto).before (hlogged _ _)))).congr ?_
  intro d d'
  exact exists_congr fun made => and_congr_right fun hmade =>
    inTurn_stores_iff (isFolder_of_isFolder_blocks ((Disk.ensureFolders_grows hmade).2 rfl))

namespace GenerationOrder

variable {o : GenerationOrder} {r : GenerationResult}

/-- What an order with this result does to the disk. -/
def change (env : Environment) (o : GenerationOrder) (r : GenerationResult) : Disk → Disk → Prop :=
  if o.preview then Eq else Disk.Stores (o.target env).parent [o.file env r]

theorem change_of_preview (env : Environment) (r : GenerationResult) (h : o.preview = true) :
    o.change env r = Eq := if_pos h

theorem change_of_not_preview (env : Environment) (r : GenerationResult) (h : o.preview = false) :
    o.change env r = Disk.Stores (o.target env).parent [o.file env r] :=
  if_neg (by rw [h]; exact Bool.false_ne_true)

theorem repeatable_change (env : Environment) (o : GenerationOrder) (r : GenerationResult) :
    Disk.Repeatable (o.change env r) := by
  unfold change
  split
  · exact Disk.repeatable_eq
  · exact Disk.Stores.repeatable

/-- What a success says of an order with its code given. -/
theorem made_of_run {code : String} (hcode : o.code = some code)
    (h : o.run.runIn around s = (.ok r, s')) :
    GeneratedBlock.ofCode o.blockName code o.wishes = .ok r.block
      ∧ r.file = (if o.preview then none else some (o.target around.environment))
      ∧ (o.preview = false → r.block.schema.toJson.isWritable = true
        ∧ (o.target around.environment).holdsNull = false) := by
  unfold run at h
  rw [hcode] at h
  obtain ⟨_, s₁, hmeant, h⟩ := Act.bind_eq_ok_iff.mp h
  cases hmeant
  obtain ⟨block, s₁, hblock, h⟩ := Act.bind_eq_ok_iff.mp h
  obtain ⟨hmade, rfl⟩ := ofExcept_eq_ok_iff.mp hblock
  have hvalid : block.report.isValid = true := by
    rw [GeneratedBlock.report_ofCode hmade]
    rfl
  cases hpreview : o.preview with
  | true =>
    simp only [hpreview, if_true] at h
    obtain ⟨rfl, -⟩ := pure_eq_ok_iff.mp h
    exact ⟨hmade, rfl, nofun⟩
  | false =>
    simp only [hpreview, hvalid, Bool.false_eq_true, if_false, if_true] at h
    obtain ⟨env, s₁, henv, h⟩ := Act.bind_eq_ok_iff.mp h
    cases henv
    obtain ⟨_, s₂, hwritten, h⟩ := Act.bind_eq_ok_iff.mp h
    obtain ⟨_, s₃, hlog, h⟩ := Act.bind_eq_ok_iff.mp h
    cases hlog
    obtain ⟨rfl, -⟩ := pure_eq_ok_iff.mp h
    exact ⟨hmade, rfl, fun _ => (writeJson_eq_ok hwritten).1⟩

/-- An order with its code given that succeeds somewhere gives the same everywhere. -/
theorem performs_of_run {code : String} (hcode : o.code = some code)
    (h : o.run.runIn around s = (.ok r, s')) :
    Performs o.run around r (o.change around.environment r) := by
  obtain ⟨hmade, hfile, hwritable⟩ := made_of_run hcode h
  obtain ⟨block, file⟩ := r
  dsimp only at hmade hfile hwritable
  have hvalid : block.report.isValid = true := by
    rw [GeneratedBlock.report_ofCode hmade]
    rfl
  unfold run
  rw [hcode, hfile]
  refine (performs_pure code).after ((performs_ofExcept hmade).after ?_)
  cases hpreview : o.preview with
  | true =>
    rw [change_of_preview _ _ hpreview]
    exact performs_pure _
  | false =>
    rw [change_of_not_preview _ _ hpreview]
    simp only [hvalid, Bool.false_eq_true, if_false, if_true]
    refine performs_environment.after ?_
    exact (performs_writeJson (hwritable hpreview).2 (hwritable hpreview).1).before
      ((performs_log _).after (performs_pure _))

end GenerationOrder

end

/-! ## Orders for one project -/

namespace GenerationOrder

variable {o o' : GenerationOrder} {r r' : GenerationResult} {project : String}
  {around : Surroundings} {s s' : Session}

/-- The order gives the code of a block of the project, whose name has no slash, and leaves it open
where the schema is to be written. -/
structure GivenFor (o : GenerationOrder) (project : String) : Prop where
  project : o.place.projectPath = project
  name : '/' ∉ o.blockName.toList
  code : o.code.isSome = true
  output : o.outputPath.getD "" = ""

/-- Unless somebody says otherwise, the schema lies in the folder of the schemas. -/
theorem target_of_default (env : Environment) (h : o.outputPath.getD "" = "") :
    o.target env = ((modelsPath env (.ofString o.place.projectPath)).join "blocks").join
      (o.blockName ++ ".json") := by
  unfold target
  cases houtput : o.outputPath with
  | none => rfl
  | some text =>
    rw [houtput, Option.getD_some] at h
    rw [h]
    rfl

theorem GivenFor.isEntryName (h : o.GivenFor project) : IsEntryName (o.blockName ++ ".json") :=
  Path.isEntryName_append h.name (by decide) (by decide)

/-- What such an order does to the disk, if it is not only to be shown. -/
theorem GivenFor.change_eq (h : o.GivenFor project) (env : Environment)
    (hwrite : o.preview = false) :
    o.change env r = Disk.Stores ((modelsPath env (.ofString project)).join "blocks")
      [(((modelsPath env (.ofString project)).join "blocks").join (o.blockName ++ ".json"),
        Text.Utf8.encode (writtenText r.block.schema.toJson).toList)] := by
  rw [change_of_not_preview env r hwrite, file, target_of_default env h.output, h.project,
    Path.parent_join _ h.isEntryName.1]

/-- The schemas of two blocks lie apart. -/
theorem GivenFor.swappable (h : o.GivenFor project) (h' : o'.GivenFor project)
    (hne : o.blockName ≠ o'.blockName) (env : Environment) :
    Disk.Swappable (o.change env r) (o'.change env r') := by
  cases hpreview : o.preview with
  | true =>
    rw [change_of_preview env r hpreview]
    exact Disk.swappable_eq_left _
  | false =>
    cases hpreview' : o'.preview with
    | true =>
      rw [change_of_preview env r' hpreview']
      exact Disk.swappable_eq_right _
    | false =>
      rw [h.change_eq env hpreview, h'.change_eq env hpreview']
      refine Disk.Stores.swappable fun d => Disk.apart_of_ne h.isEntryName h'.isEntryName ?_
      intro heq
      have hchars : o.blockName.toList ++ ".json".toList
          = o'.blockName.toList ++ ".json".toList := by
        rw [← String.toList_append, ← String.toList_append, heq]
      exact hne (String.toList_inj.mp (List.append_cancel_right hchars))

/-- The schema of a block and the files that every project needs lie apart. -/
theorem GivenFor.swappable_files (h : o.GivenFor project) (env : Environment)
    (components : List String) :
    Disk.Swappable (o.change env r)
        (Disk.Stores ((modelsPath env (.ofString project)).join "blocks")
          ((Builtin.files components).map (fileIn (modelsPath env (.ofString project)))))
      ∧ Disk.Swappable
        (Disk.Stores ((modelsPath env (.ofString project)).join "blocks")
          ((Builtin.files components).map (fileIn (modelsPath env (.ofString project)))))
        (o.change env r) := by
  cases hpreview : o.preview with
  | true =>
    rw [change_of_preview env r hpreview]
    exact ⟨Disk.swappable_eq_left _, Disk.swappable_eq_right _⟩
  | false =>
    have hblocks : IsEntryName "blocks" := ⟨Builtin.isFileName_blocks, by decide⟩
    rw [h.change_eq env hpreview]
    have hapart (d : Disk) : Disk.Apart d
        [(((modelsPath env (.ofString project)).join "blocks").join (o.blockName ++ ".json"),
          Text.Utf8.encode (writtenText r.block.schema.toJson).toList)]
        ((Builtin.files components).map (fileIn (modelsPath env (.ofString project)))) :=
      Disk.apart_inside hblocks h.isEntryName <| List.forall_mem_map.mpr fun x hx =>
        ⟨x.1, Builtin.isEntryName_of_mem components x hx, rfl⟩
    exact ⟨Disk.Stores.swappable hapart, Disk.Stores.swappable fun d => (hapart d).symm⟩

end GenerationOrder

end BlockAuthoring
