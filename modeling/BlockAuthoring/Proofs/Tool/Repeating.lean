import BlockAuthoring.Proofs.Analysis.Outcome
import BlockAuthoring.Proofs.Source.Steady
import BlockAuthoring.Proofs.Tool.Lookup
import BlockAuthoring.Proofs.Tool.Storing

/-!
# Writing in another order, and writing again

What is written for different blocks, and what is written for every project, may be written in
either order. Writing again finds the code that was found before, unless it was written over.
-/

namespace BlockAuthoring

open Act
open BlockAuthoring.Path (IsEntryName)

/-! ## Finding the code again -/

section

variable {around : Surroundings} {s s' : Session} {d d' : Disk} {name code : String}

namespace BlockFolder

variable {f : BlockFolder}

/-- What looking up a code needs. -/
theorem lookUp_eq_ok_iff : f.lookUp d name = .ok code ↔
    d.isFolder f.path = true ∧ name ∈ f.blockNames d ∧ d.isFile (f.codePath name) = true
      ∧ f.code d name = .ok code := by
  unfold lookUp
  split
  · rename_i hfolder
    split
    · rename_i hname
      split
      · rename_i hfile
        simp [hfolder, hname, hfile]
      · rename_i hfile
        simp [hfile]
    · rename_i hname
      simp [hname]
  · rename_i hfolder
    simp [hfolder]

/-- On a disk that grows, blocks are still blocks. -/
theorem mem_blockNames_of_grows (hgrows : d.Grows d') (h : name ∈ f.blockNames d) :
    name ∈ f.blockNames d' := by
  rw [mem_blockNames] at h ⊢
  obtain ⟨hname, hfolder⟩ := h
  refine ⟨?_, hgrows.isFolder hfolder⟩
  unfold Disk.namesIn at hname ⊢
  cases hl : d.locate f.path with
  | error fault =>
    rw [hl] at hname
    cases hname
  | ok l =>
    rw [hl] at hname
    rw [hgrows.locate hl]
    rw [Disk.mem_namesAt_iff, Option.isSome_iff_exists] at hname ⊢
    obtain ⟨n, hn⟩ := hname
    cases n with
    | folder => exact ⟨_, hgrows.folder _ hn⟩
    | file bytes =>
      obtain ⟨bytes', hn'⟩ := hgrows.file _ _ hn
      exact ⟨_, hn'⟩

/-- A code is found again, unless a file was written at its place. -/
theorem lookUp_of_writes {way : Path} {files : List (Path × List UInt8)}
    (hwrites : Disk.Writes way files d d')
    (hapart : ∀ file ∈ files, d'.locate file.1 ≠ d'.locate (f.codePath name))
    (h : f.lookUp d name = .ok code) : f.lookUp d' name = .ok code := by
  obtain ⟨hfolder, hname, hfile, hcode⟩ := lookUp_eq_ok_iff.mp h
  obtain ⟨bytes, hread⟩ := Disk.isFile_iff_read.mp hfile
  obtain ⟨l, hl, hnode⟩ := Disk.read_eq_ok_iff.mp hread
  have hl' := hwrites.grows.locate hl
  have hread' : d'.read (f.codePath name) = .ok bytes := by
    refine Disk.read_eq_ok_iff.mpr ⟨l, hl', ?_⟩
    rcases hwrites.others l with hsame | ⟨hnone, -, -⟩ | ⟨file, hmem, hother⟩
    · exact hsame.trans hnode
    · cases hnone.symm.trans hnode
    · exact absurd (hother.trans hl'.symm) (hapart file hmem)
  exact lookUp_eq_ok_iff.mpr ⟨hwrites.grows.isFolder hfolder,
    mem_blockNames_of_grows hwrites.grows hname, hwrites.grows.isFile hfile,
    (code_congr hread hread').symm.trans hcode⟩

end BlockFolder

/-- In a project, the code that is meant is the one that is looked up. -/
theorem lookUp_of_meantCode {place : BlockPlace} (hlocal : place.repository.isTruthy = false)
    (h : (meantCode place name none).runIn around s = (.ok code, s')) :
    s' = s ∧ (place.folder around.environment).lookUp s.disk name = .ok code := by
  rw [runIn_meantCode hlocal] at h
  cases hlookUp : (place.folder around.environment).lookUp s.disk name with
  | error e => rw [hlookUp] at h; cases h
  | ok code' =>
    rw [hlookUp] at h
    cases h
    exact ⟨rfl, rfl⟩

/-- What a service was asked for with success, it gives whenever it is asked. -/
theorem gives_of_asking {α : Type} {ask : Asking α} {a : α}
    (hsteady : Asking.Steady around.service ask)
    (h : (asking ask).runIn around s = (.ok a, s')) : Asking.Gives around.service ask (.ok a) := by
  obtain ⟨result, hgives⟩ := hsteady
  obtain ⟨more, hmore⟩ := hgives s.requests
  rw [runIn_asking, hmore] at h
  have hresult : result = .ok a := mapError_eq_ok_iff.mp (congrArg Prod.fst h)
  exact hresult ▸ hgives

/-- A service that is asked again gives the same. -/
theorem performs_asking {α : Type} {ask : Asking α} {a : α}
    (hsteady : Asking.Steady around.service ask)
    (h : (asking ask).runIn around s = (.ok a, s')) : Performs (asking ask) around a Eq := by
  have hrun (t : Session) :
      ∃ requests, (asking ask).runIn around t = (.ok a, { t with requests }) := by
    obtain ⟨more, hmore⟩ := gives_of_asking hsteady h t.requests
    refine ⟨t.requests ++ more, ?_⟩
    rw [runIn_asking, hmore]
    rfl
  refine ⟨fun t b t' ht => ?_, fun t d ht => ?_⟩
  · obtain ⟨requests, hthis⟩ := hrun t
    cases hthis.symm.trans ht
    exact ⟨rfl, rfl⟩
  · obtain ⟨requests, hthis⟩ := hrun t
    exact ⟨{ t with requests }, hthis, ht⟩

/-- The source that is meant does not depend on the disk. -/
theorem BlockSource.runIn_resolve (place : BlockPlace) :
    (resolve place).runIn around s = (ofPlace around.environment place, s) := by
  have henv : Act.environment.runIn around s = (.ok around.environment, s) := rfl
  rw [resolve, Act.runIn_bind, henv]
  dsimp only
  cases ofPlace around.environment place <;> rfl

theorem BlockSource.performs_load_repository {r : Repository}
    (h : ((repository r).load name).runIn around s = (.ok code, s')) :
    Performs ((repository r).load name) around code Eq := by
  unfold load at h ⊢
  obtain ⟨b, s₁, hfind, h⟩ := Act.bind_eq_ok_iff.mp h
  have hfound : Performs ((repository r).find name) around b Eq := by
    obtain ⟨blocks, s₂, hlist, hblock⟩ := Act.bind_eq_ok_iff.mp hfind
    exact (performs_asking r.steady_list hlist).after
      (performs_ofExcept (ofExcept_eq_ok_iff.mp hblock).1)
  refine hfound.after ?_
  cases hcode : b.hasCode with
  | false =>
    simp only [hcode, Bool.false_eq_true, if_false] at h
    obtain ⟨_, _, hthrow, -⟩ := Act.bind_eq_ok_iff.mp h
    exact absurd hthrow throw_ne_ok
  | true =>
    have hasked : (repository r).codeOf b = asking (r.codeOf b) := rfl
    simp only [hcode, if_true, hasked] at h ⊢
    exact performs_asking (r.steady_codeOf b) h

end

/-! ## Orders -/

namespace GenerationOrder

variable {o : GenerationOrder} {r : GenerationResult} {around : Surroundings} {s s' : Session}

/-- The order is told to write to the very file that it reads the code from. -/
structure OverwritesCode (o : GenerationOrder) (env : Environment) (d : Disk) : Prop where
  reads : o.code = none
  inProject : o.place.repository.isTruthy = false
  writes : o.preview = false
  told : o.outputPath.getD "" ≠ ""
  same : d.locate (o.target env) = d.locate ((o.place.folder env).codePath o.blockName)

/-- The folder of the schemas holds no codes. -/
theorem locate_target_ne {env : Environment} {d : Disk} {l : Location}
    (hname : IsEntryName o.blockName) (houtput : o.outputPath.getD "" = "")
    (hl : d.locate (o.target env) = .ok l) :
    d.locate (o.target env) ≠ d.locate ((o.place.folder env).codePath o.blockName) := by
  intro hsame
  rw [target_of_default env houtput] at hsame hl
  have hschema : IsEntryName (o.blockName ++ ".json") :=
    Path.isEntryName_append hname.1.2.2 (by decide) (by decide)
  obtain ⟨k, -, rfl⟩ := Disk.locate_inside hschema hl
  obtain ⟨k', -, heq⟩ := Disk.locate_inside (BlockFolder.isEntryName_codeFile hname)
    (hsame.symm.trans hl)
  have hnames : o.blockName ++ ".json" = o.blockName ++ ".js" := by
    simpa [BlockInfo.codeFile] using (List.append_inj' heq rfl).2
  have hlengths := congrArg (fun name => name.toList.length) hnames
  simp at hlengths

/-- An order is an order for the code that it finds. -/
theorem run_of_code_none (hcode : o.code = none) :
    o.run = meantCode o.place o.blockName none >>= fun code => { o with code := some code }.run := by
  obtain ⟨place, blockName, code, outputPath, preview, wishes⟩ := o
  subst hcode
  exact run_about_none ⟨place, blockName, none, outputPath, preview, wishes⟩

/-- A repository is asked again with the same result. -/
theorem performs_meantCode {place : BlockPlace} {name code : String} {s₁ : Session}
    (hremote : place.repository.isTruthy = true)
    (hfound : (meantCode place name none).runIn around s = (.ok code, s₁)) :
    Performs (meantCode place name none) around code Eq := by
  obtain ⟨source, s₂, hresolve, hload⟩ := Act.bind_eq_ok_iff.mp hfound
  rw [BlockSource.runIn_resolve] at hresolve
  have hsource : BlockSource.ofPlace around.environment place = .ok source :=
    congrArg Prod.fst hresolve
  have hresolved : Performs (BlockSource.resolve place) around source Eq := by
    refine ⟨fun t b t' ht => ?_, fun t d ht => ⟨t, ?_, ht⟩⟩
    · rw [BlockSource.runIn_resolve, hsource] at ht
      cases ht
      exact ⟨rfl, rfl⟩
    · rw [BlockSource.runIn_resolve, hsource]
  refine hresolved.after ?_
  rw [BlockSource.ofPlace, if_pos hremote] at hsource
  cases hlocation : BlockSource.locationOf place.repository with
  | error e =>
    rw [hlocation] at hsource
    cases hsource
  | ok l =>
    rw [hlocation] at hsource
    cases hsource
    exact BlockSource.performs_load_repository hload

/-- What an order wrote is nowhere where a code was found, unless it was told to write there. -/
theorem lookUp_again (htree : s.disk.IsTree) (hcode : o.code = none)
    (hlocal : o.place.repository.isTruthy = false) {code : String}
    (hfound : (o.place.folder around.environment).lookUp s.disk o.blockName = .ok code)
    (hrun : o.run.runIn around s = (.ok r, s'))
    (hkept : ¬ o.OverwritesCode around.environment s'.disk) :
    (o.place.folder around.environment).lookUp s'.disk o.blockName = .ok code := by
  cases hpreview : o.preview with
  | true =>
    have hsame : s'.disk = s.disk := by
      simpa only [hrun] using disk_of_preview hpreview around s
    rw [hsame]
    exact hfound
  | false =>
    have hwrites := writes_of_run hpreview hrun
    refine BlockFolder.lookUp_of_writes hwrites (fun written hmem => ?_) hfound
    obtain ⟨l, hl, -⟩ := Disk.read_eq_ok_iff.mp (hwrites.written written hmem)
    rw [List.mem_singleton.mp hmem] at hl ⊢
    by_cases houtput : o.outputPath.getD "" = ""
    · obtain ⟨hfolder, hname, hfile, -⟩ := BlockFolder.lookUp_eq_ok_iff.mp hfound
      obtain ⟨bytes, hread⟩ := Disk.isFile_iff_read.mp hfile
      have hheld := (BlockFolder.holdsCode_iff htree).mpr ⟨hfolder, hname, hread⟩
      exact locate_target_ne (hheld.isEntryName htree) houtput hl
    · exact fun hsame => hkept ⟨hcode, hlocal, hpreview, houtput, hsame⟩

/-- An order that succeeds does so again, unless it has written over its code. -/
theorem repeats_run (htree : s.disk.IsTree)
    (hkept : ¬ o.OverwritesCode around.environment (o.run.runIn around s).2.disk) :
    Repeats around s o.run := by
  intro r s' hrun
  rw [hrun] at hkept
  cases hcode : o.code with
  | some code =>
    exact (performs_of_run hcode hrun).repeats (o.repeatable_change _ r) r s' hrun
  | none =>
    have hfirst := run_of_code_none hcode ▸ hrun
    obtain ⟨code, s₁, hfound, hgiven⟩ := Act.bind_eq_ok_iff.mp hfirst
    have hperforms : Performs { o with code := some code }.run around r (o.change _ r) :=
      performs_of_run rfl hgiven
    cases hlocal : o.place.repository.isTruthy with
    | true =>
      have hall : Performs o.run around r (o.change _ r) :=
        run_of_code_none hcode ▸ (performs_meantCode hlocal hfound).after hperforms
      exact hall.repeats (o.repeatable_change _ r) r s' hrun
    | false =>
      obtain ⟨rfl, hlookUp⟩ := lookUp_of_meantCode hlocal hfound
      have hagain := lookUp_again htree hcode hlocal hlookUp hrun hkept
      obtain ⟨s₂, hrun', hsame⟩ := hperforms.repeats (o.repeatable_change _ r) r s' hgiven
      refine ⟨s₂, ?_, hsame⟩
      rw [run_of_code_none hcode, Act.bind_eq_ok_iff]
      refine ⟨code, s', ?_, hrun'⟩
      rw [runIn_meantCode hlocal, hagain]
      rfl

end GenerationOrder

/-! ## Writing -/

section

variable {s : Session}

theorem repeats_writeBaseConfigs (around : Surroundings) (s : Session) (project : String)
    (blockNames : List Json) : Repeats around s (writeBaseConfigs project blockNames) := by
  intro c s' hrun
  obtain ⟨-, components, hread, -⟩ := BaseConfigs.writes_of_run hrun
  exact (performs_writeBaseConfigs hread (holdsNull_of_writeBaseConfigs hrun)).repeats
    Disk.Stores.repeatable c s' hrun

/-- **Writing in another order, and again.** For one project, schemas of different blocks whose code
is given may be written in either order, and before or after the files that every project needs:
what succeeds one behind the other succeeds in the other order, gives the same and leaves the same.
What was written may be written again, with the same result, and nothing is different then; only an
order that was told to write over the code it reads finds something else. -/
theorem writing_commutes_and_repeats (around : Surroundings) (htree : s.disk.IsTree) :
    (∀ project (o o' : GenerationOrder), o.GivenFor project → o'.GivenFor project →
      o.blockName ≠ o'.blockName → Commute around s o.run o'.run)
    ∧ (∀ project (o : GenerationOrder) blockNames, o.GivenFor project →
      Commute around s o.run (writeBaseConfigs project blockNames)
        ∧ Commute around s (writeBaseConfigs project blockNames) o.run)
    ∧ (∀ o : GenerationOrder,
      ¬ o.OverwritesCode around.environment (o.run.runIn around s).2.disk →
        Repeats around s o.run)
    ∧ ∀ project blockNames, Repeats around s (writeBaseConfigs project blockNames) := by
  refine ⟨fun project o o' ho ho' hne => ?orders, fun project o blockNames ho => ⟨?first, ?last⟩,
    fun o hkept => GenerationOrder.repeats_run htree hkept,
    repeats_writeBaseConfigs around s⟩
  case orders =>
    intro r r' s₁ s₂ hrun hrun'
    obtain ⟨code, hcode⟩ := Option.isSome_iff_exists.mp ho.code
    obtain ⟨code', hcode'⟩ := Option.isSome_iff_exists.mp ho'.code
    exact (GenerationOrder.performs_of_run hcode hrun).commute
      (GenerationOrder.performs_of_run hcode' hrun') (ho.swappable ho' hne _) r r' s₁ s₂ hrun hrun'
  case first =>
    intro r c s₁ s₂ hrun hwrite
    obtain ⟨code, hcode⟩ := Option.isSome_iff_exists.mp ho.code
    obtain ⟨-, components, hread, -⟩ := BaseConfigs.writes_of_run hwrite
    exact (GenerationOrder.performs_of_run hcode hrun).commute
      (performs_writeBaseConfigs hread (holdsNull_of_writeBaseConfigs hwrite))
      (ho.swappable_files _ components).1 r c s₁ s₂ hrun hwrite
  case last =>
    intro c r s₁ s₂ hwrite hrun
    obtain ⟨code, hcode⟩ := Option.isSome_iff_exists.mp ho.code
    obtain ⟨-, components, hread, -⟩ := BaseConfigs.writes_of_run hwrite
    exact (performs_writeBaseConfigs hread (holdsNull_of_writeBaseConfigs hwrite)).commute
      (GenerationOrder.performs_of_run hcode hrun) (ho.swappable_files _ components).2
      c r s₁ s₂ hwrite hrun

/-- An order for the block that lies in the project, with its code given or not. -/
def heroOrder (code : Option String) (outputPath : Option String) : GenerationOrder :=
  { blockName := "hero", code, outputPath }

theorem writing_commutes_and_repeats_hero :
    (Session.styledHero []).disk.IsTree
      ∧ (columnsOrder false).GivenFor "." ∧ (heroOrder (some "") none).GivenFor "."
      ∧ (columnsOrder false).blockName ≠ (heroOrder (some "") none).blockName
      ∧ (∃ r r' s₁ s₂ s₁' s₂',
        (columnsOrder false).run.runIn .offline (.styledHero []) = (.ok r, s₁)
          ∧ (heroOrder (some "") none).run.runIn .offline s₁ = (.ok r', s₂)
          ∧ (heroOrder (some "") none).run.runIn .offline (.styledHero []) = (.ok r', s₁')
          ∧ (columnsOrder false).run.runIn .offline s₁' = (.ok r, s₂')
          ∧ s₂.disk.Same s₂'.disk)
      ∧ ¬ (heroOrder none none).OverwritesCode []
        ((heroOrder none none).run.runIn .offline (.styledHero [])).2.disk
      ∧ ∃ r s₁ s₂, (heroOrder none none).run.runIn .offline (.styledHero []) = (.ok r, s₁)
        ∧ (heroOrder none none).run.runIn .offline s₁ = (.ok r, s₂) ∧ s₁.disk.Same s₂.disk := by
  have htree := isTree_styledHero []
  have hcolumns : (columnsOrder false).GivenFor "." := ⟨rfl, by decide, rfl, rfl⟩
  have hhero : (heroOrder (some "") none).GivenFor "." := ⟨rfl, by decide, rfl, rfl⟩
  have hne : (columnsOrder false).blockName ≠ (heroOrder (some "") none).blockName := by decide
  have hkept : ¬ (heroOrder none none).OverwritesCode []
      ((heroOrder none none).run.runIn .offline (.styledHero [])).2.disk := fun h => h.told rfl
  obtain ⟨horders, -, hagain, -⟩ := writing_commutes_and_repeats .offline htree
  have hok : ((columnsOrder false).run.runIn .offline (.styledHero [])).1.isOk = true := by
    decide +kernel
  have hok' : ((heroOrder (some "") none).run.runIn .offline
      ((columnsOrder false).run.runIn .offline (.styledHero [])).2).1.isOk = true := by
    decide +kernel
  have hok'' : ((heroOrder none none).run.runIn .offline (.styledHero [])).1.isOk = true := by
    decide +kernel
  obtain ⟨r, hfirst⟩ := exists_eq_ok_of_isOk hok
  obtain ⟨r', hsecond⟩ := exists_eq_ok_of_isOk hok'
  obtain ⟨s₁', s₂', hfirst', hsecond', hsame⟩ :=
    horders "." _ _ hcolumns hhero hne r r' _ _ hfirst hsecond
  obtain ⟨r'', hrun⟩ := exists_eq_ok_of_isOk hok''
  obtain ⟨s₃, hrun', hsame'⟩ := hagain _ hkept r'' _ hrun
  exact ⟨htree, hcolumns, hhero, hne, ⟨r, r', _, _, s₁', s₂', hfirst, hsecond, hfirst', hsecond',
    hsame⟩, hkept, r'', _, s₃, hrun, hrun', hsame'⟩

/-! ## Writing over a code -/

/-- A session with a block whose code takes three columns. -/
def Session.threeColumns : Session :=
  { disk := ⟨[(["work"], .folder), (["work", "blocks"], .folder),
      (["work", "blocks", "hero"], .folder),
      (["work", "blocks", "hero", "hero.js"],
        .file (Text.Utf8.encode "block.children[2];".toList))], ["work"]⟩ }

/-- An order to write over the code that it reads. -/
def overwritingOrder : GenerationOrder := heroOrder none (some "blocks/hero/hero.js")

/-- The text of the schema in a result. -/
def GenerationResult.text (r : GenerationResult) : List Char :=
  Json.print 0 r.block.schema.toJson ++ ['\n']

/-- The schema tells of three columns, but its text is no code that takes any. -/
theorem run_overwritingOrder :
    (overwritingOrder.run.runIn .offline .threeColumns).1.toOption.map (fun r =>
      (r.block.record.expectedStructure.columns, Surface.readBlockConfig.occurs r.text,
        (Analysis.childIndices r.text).toOption)) = some (3, false, some []) := by
  decide +kernel

/-- An order that is told to write over the code it reads takes the schema for the code the next
time, and gives another result. -/
theorem run_overwritingOrder_differs :
    ∃ r s', overwritingOrder.run.runIn .offline .threeColumns = (.ok r, s')
      ∧ ∀ s'', overwritingOrder.run.runIn .offline s' ≠ (.ok r, s'') := by
  obtain ⟨r, hrun⟩ : ∃ r, overwritingOrder.run.runIn .offline .threeColumns
      = (.ok r, (overwritingOrder.run.runIn .offline .threeColumns).2) :=
    exists_eq_ok_of_isOk (by decide +kernel)
  have hknown := run_overwritingOrder
  generalize (overwritingOrder.run.runIn .offline .threeColumns).2 = s' at hrun
  rw [hrun] at hknown
  obtain ⟨hcolumns, hconfig, hindices⟩ :
      r.block.record.expectedStructure.columns = 3
        ∧ Surface.readBlockConfig.occurs r.text = false
        ∧ Analysis.childIndices r.text = .ok [] := by
    obtain ⟨hcolumns, hconfig, hindices⟩ := by simpa [Except.toOption] using hknown
    refine ⟨hcolumns, hconfig, ?_⟩
    cases hall : Analysis.childIndices r.text <;> simp_all
  refine ⟨r, s', hrun, fun s'' hagain => ?_⟩
  -- What is found the next time is what was written.
  obtain ⟨-, -, s₁, s₂, hwritten, hdisk⟩ := GenerationOrder.run_eq_ok rfl hrun
  obtain ⟨⟨hwritable, -⟩, -, hread, -⟩ := writeJson_eq_ok hwritten
  have htext := readText_writtenText hread
  rw [← hdisk, toList_writtenText] at htext
  rw [GenerationOrder.run_of_code_none rfl, Act.bind_eq_ok_iff] at hagain
  obtain ⟨code, s₃, hfound, hgiven⟩ := hagain
  have hcode : code = String.ofList r.text := by
    obtain ⟨-, hlookUp⟩ := lookUp_of_meantCode rfl hfound
    obtain ⟨-, -, hfile, hcode⟩ := BlockFolder.lookUp_eq_ok_iff.mp hlookUp
    have hpath : (overwritingOrder.place.folder Surroundings.offline.environment).codePath
        overwritingOrder.blockName = overwritingOrder.target Surroundings.offline.environment := by
      decide +kernel
    rw [hpath] at hfile
    simp only [BlockFolder.code, hpath, hfile, htext, Bool.not_true, Bool.false_eq_true,
      if_false] at hcode
    exact (Except.ok.inj hcode).symm
  have hanalyzed : analyze (String.ofList r.text) = .ok r.block.record := by
    rw [← hcode]
    exact (GeneratedBlock.parts_of_ofCode (GenerationOrder.made_of_run rfl hgiven).1).1
  have hrecord : r.block.record = Analysis.recordOf r.text [] := by
    rw [analyze_eq_analyzeSource] at hanalyzed
    obtain ⟨indices, hall, hrecord⟩ := Analysis.exists_indices_of_analyzeSource hanalyzed
    rw [Script.Source.filterMap_ofChars, String.toList_ofList] at hall hrecord
    cases hindices.symm.trans hall
    exact hrecord
  rw [hrecord, Analysis.recordOf, hconfig] at hcolumns
  cases hcolumns

end

end BlockAuthoring
