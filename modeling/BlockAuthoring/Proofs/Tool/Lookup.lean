import BlockAuthoring.Proofs.Disk.Layout
import BlockAuthoring.Proofs.Source.Folder
import BlockAuthoring.Proofs.Tool.Effect
import BlockAuthoring.Proofs.Tool.Reading

/-!
# Blocks by name

The tools that work on one block of a project work on the text of one file: the file of the block's
name in the folder of that name. A block that has no such file is not found. No other file is looked
into, whatever the name of the block looks like.
-/

namespace BlockAuthoring

open BlockAuthoring.Path (IsEntryName)

/-! ## The file of a block -/

namespace BlockFolder

variable {f : BlockFolder} {d d' : Disk} {name : String} {bytes : List UInt8}

/-- The bytes are those of the block's code: of the file of its name in the folder of its name,
which lies directly in the folder of blocks. -/
inductive HoldsCode (f : BlockFolder) (d : Disk) (name : String) (bytes : List UInt8) : Prop where
  | intro {l : Location} (located : d.locate f.path = .ok l) (folder : d.node? l = some .folder)
    (block : d.node? (l ++ [name]) = some .folder)
    (file : d.node? (l ++ [name] ++ [BlockInfo.codeFile name]) = some (.file bytes)) :
    HoldsCode f d name bytes

/-- On a tree, it makes no difference whether the file is looked for along the listing. -/
theorem holdsCode_iff (htree : d.IsTree) : f.HoldsCode d name bytes ↔
    d.isFolder f.path = true ∧ name ∈ f.blockNames d ∧ d.read (f.codePath name) = .ok bytes := by
  constructor
  · rintro ⟨hlocated, hfolder, hblock, hfile⟩
    have hlies : f.LiesAt d _ := ⟨htree, hlocated, hfolder⟩
    exact ⟨hlies.isFolder_path, hlies.mem_blockNames_iff.mpr hblock,
      Disk.find?_eq_file_iff.mp ((hlies.find?_codePath hblock).trans hfile)⟩
  · rintro ⟨hfolder, hname, hread⟩
    obtain ⟨l, hlocated, hnode⟩ := Disk.isFolder_iff.mp hfolder
    have hlies : f.LiesAt d l := ⟨htree, hlocated, hnode⟩
    have hblock := hlies.mem_blockNames_iff.mp hname
    exact ⟨hlocated, hnode, hblock,
      (hlies.find?_codePath hblock).symm.trans (Disk.find?_eq_file_iff.mpr hread)⟩

theorem HoldsCode.unique {bytes' : List UInt8} (h : f.HoldsCode d name bytes)
    (h' : f.HoldsCode d name bytes') : bytes = bytes' := by
  obtain ⟨hlocated, -, -, hfile⟩ := h
  obtain ⟨hlocated', -, -, hfile'⟩ := h'
  cases hlocated.symm.trans hlocated'
  cases hfile.symm.trans hfile'
  rfl

/-- The code of a block that is looked for in the listing. -/
def lookUp (f : BlockFolder) (d : Disk) (name : String) : Except SourceFailure String :=
  if d.isFolder f.path then
    if name ∈ f.blockNames d then
      if d.isFile (f.codePath name) then f.code d name else .error (.source (.codeMissing name))
    else .error (.source (.blockMissing name))
  else .error (.source (.folderMissing f.path))

/-- Each line end in the file is a newline. -/
theorem lookUp_of_holdsCode (htree : d.IsTree) (h : f.HoldsCode d name bytes) {text : List Char}
    (htext : Text.Utf8.decode bytes = .ok text) :
    f.lookUp d name = .ok (String.ofList (Text.normalizeNewlines text)) := by
  obtain ⟨hfolder, hname, hread⟩ := (holdsCode_iff htree).mp h
  have hcode : f.lookUp d name = f.code d name := by
    rw [lookUp, if_pos hfolder, if_pos hname, if_pos (Disk.isFile_iff_read.mpr ⟨bytes, hread⟩)]
  obtain ⟨hlocated, hfolder, hblock, hfile⟩ := h
  exact hcode.trans (LiesAt.code_of_file ⟨htree, hlocated, hfolder⟩ hblock hfile htext)

theorem lookUp_isMissing (htree : d.IsTree) (h : ∀ bytes, ¬ f.HoldsCode d name bytes) :
    ∃ e, f.lookUp d name = .error (.source e) ∧ e.isMissing = true := by
  unfold lookUp
  split
  · rename_i hfolder
    split
    · rename_i hname
      split
      · rename_i hfile
        obtain ⟨bytes, hread⟩ := Disk.isFile_iff_read.mp hfile
        exact absurd ((holdsCode_iff htree).mpr ⟨hfolder, hname, hread⟩) (h bytes)
      · exact ⟨_, rfl, rfl⟩
    · exact ⟨_, rfl, rfl⟩
  · exact ⟨_, rfl, rfl⟩

/-- Only what has a name in a folder is found. -/
theorem HoldsCode.isEntryName (htree : d.IsTree) (h : f.HoldsCode d name bytes) :
    IsEntryName name := by
  obtain ⟨-, -, hblock, -⟩ := h
  exact htree.isEntryName (by rw [hblock]; rfl)

/-- What is read decides what the code of a block is. -/
theorem code_congr (h : d.read (f.codePath name) = .ok bytes)
    (h' : d'.read (f.codePath name) = .ok bytes) : f.code d name = f.code d' name := by
  simp only [code, Disk.readText, h, h', Disk.isFile_iff_read.mpr ⟨_, h⟩,
    Disk.isFile_iff_read.mpr ⟨_, h'⟩, Bool.not_true, Bool.false_eq_true, if_false]

theorem mem_blockNames_congr (h : d.SameLayout d') (htree : d.IsTree) (htree' : d'.IsTree)
    (hfolder : d.isFolder f.path = true) : name ∈ f.blockNames d ↔ name ∈ f.blockNames d' := by
  obtain ⟨l, hlocated, hnode⟩ := Disk.isFolder_iff.mp hfolder
  have hlies : f.LiesAt d l := ⟨htree, hlocated, hnode⟩
  have hlies' : f.LiesAt d' l :=
    ⟨htree', (h.locate_eq f.path).symm.trans hlocated, h.node?_eq_folder_iff.mp hnode⟩
  rw [hlies.mem_blockNames_iff, hlies'.mem_blockNames_iff, h.node?_eq_folder_iff]

/-- On disks of one layout, only the file of the block decides what is found. -/
theorem lookUp_congr (h : d.SameLayout d') (htree : d.IsTree) (htree' : d'.IsTree)
    (hcode : ∀ bytes, f.HoldsCode d name bytes ↔ f.HoldsCode d' name bytes) :
    f.lookUp d name = f.lookUp d' name := by
  unfold lookUp
  rw [← h.isFolder_eq, ← h.isFile_eq]
  split
  · rename_i hfolder
    have hnames : name ∈ f.blockNames d ↔ name ∈ f.blockNames d' :=
      mem_blockNames_congr h htree htree' hfolder
    simp only [← hnames]
    split
    · rename_i hname
      split
      · -- Only here the content of a file is read, and it is the file of the block.
        rename_i hfile
        obtain ⟨bytes, hread⟩ := Disk.isFile_iff_read.mp hfile
        have hheld := (hcode bytes).mp ((holdsCode_iff htree).mpr ⟨hfolder, hname, hread⟩)
        exact code_congr hread ((holdsCode_iff htree').mp hheld).2.2
      · rfl
    · rfl
  · rfl

/-- The first block of a name in the listing is the one that is told of under the name. -/
theorem findBlock_map_info (f : BlockFolder) (d : Disk) (name : String) (names : List String) :
    findBlock name (names.map (f.info d))
      = if name ∈ names then .ok (f.info d name) else .error (.blockMissing name) := by
  have hcalled (other : String) : (f.info d other).isCalled name = (other == name) := rfl
  induction names with
  | nil => rfl
  | cons first names ih =>
    by_cases hfirst : first = name
    · subst hfirst
      simp [findBlock, hcalled]
    · rw [List.map_cons, findBlock, List.find?_cons_of_neg (by simpa [hcalled] using hfirst)]
      simp only [List.mem_cons, Ne.symm hfirst, false_or]
      exact ih

theorem findBlock_list (f : BlockFolder) (d : Disk) (name : String) :
    (f.list d).bind (findBlock name)
      = if d.isFolder f.path then
          if name ∈ f.blockNames d then .ok (f.info d name) else .error (.blockMissing name)
        else .error (.folderMissing f.path) := by
  rw [list]
  split
  · exact findBlock_map_info f d name _
  · rfl

end BlockFolder

/-! ## Finding a code -/

/-- The folder of blocks of a place that tells of no repository. -/
def BlockPlace.folder (place : BlockPlace) (env : Environment) : BlockFolder :=
  ⟨BlockAuthoring.blocksPath env (.ofString place.projectPath) place.blocksPath⟩

section

variable {place : BlockPlace} {name : String} {around : Surroundings} {s : Session}

theorem BlockSource.runIn_load_folder (f : BlockFolder) (name : String) :
    ((folder f).load name).runIn around s = ((f.lookUp s.disk name).mapError .source, s) := by
  unfold load
  rw [Act.runIn_bind, runIn_find_folder, BlockFolder.lookUp, BlockFolder.findBlock_list]
  by_cases hfolder : s.disk.isFolder f.path = true
  · by_cases hname : name ∈ f.blockNames s.disk
    · have hcode : (f.info s.disk name).hasCode = s.disk.isFile (f.codePath name) := rfl
      simp only [if_pos hfolder, if_pos hname, Except.mapError, hcode]
      cases s.disk.isFile (f.codePath name) with
      | true => exact runIn_code_folder name
      | false => rfl
    · simp only [if_pos hfolder, if_neg hname, Except.mapError]
  · simp only [if_neg hfolder, Except.mapError]

theorem runIn_meantCode (hlocal : place.repository.isTruthy = false) (name : String) :
    (meantCode place name none).runIn around s
      = (((place.folder around.environment).lookUp s.disk name).mapError .source, s) := by
  have hresolve : (BlockSource.resolve place).runIn around s
      = (.ok (.folder (place.folder around.environment)), s) := by
    have henv : Act.environment.runIn around s = (.ok around.environment, s) := rfl
    rw [BlockSource.resolve, Act.runIn_bind, henv]
    simp only [BlockSource.ofPlace, hlocal, Bool.false_eq_true, if_false]
    rfl
  rw [meantCode, Act.runIn_bind, hresolve]
  exact BlockSource.runIn_load_folder _ name

end

/-! ## Steps that look into no file -/

namespace Act

variable {α β : Type}

/-- The step looks into no file: from disks of one layout it gives the same, and the disks behind it
are of one layout. -/
def Blind (x : Act α) : Prop :=
  ∀ around s s', s.disk.SameLayout s'.disk →
    (x.runIn around s).1 = (x.runIn around s').1
      ∧ (x.runIn around s).2.disk.SameLayout (x.runIn around s').2.disk

theorem blind_pure (a : α) : Blind (pure a : Act α) := fun _ _ _ h => ⟨rfl, h⟩

theorem blind_throw (e : Failure) : Blind (throw e : Act α) := fun _ _ _ h => ⟨rfl, h⟩

theorem blind_ofExcept {ε : Type} (cause : ε → Failure) (result : Except ε α) :
    Blind (ofExcept cause result) := by
  cases result with
  | ok a => exact blind_pure a
  | error e => exact blind_throw (cause e)

theorem blind_throw_bind (e : Failure) (f : α → Act β) : Blind ((throw e : Act α) >>= f) :=
  fun _ _ _ h => ⟨rfl, h⟩

theorem Blind.bind {x : Act α} {f : α → Act β} (hx : Blind x) (hf : ∀ a, Blind (f a)) :
    Blind (x >>= f) := by
  intro around s s' h
  obtain ⟨hresult, hlayout⟩ := hx around s s' h
  rw [runIn_bind, runIn_bind]
  generalize x.runIn around s = outcome at hresult hlayout ⊢
  generalize x.runIn around s' = outcome' at hresult hlayout ⊢
  obtain ⟨result, s₁⟩ := outcome
  obtain ⟨result', s₁'⟩ := outcome'
  cases hresult
  cases result with
  | ok a => exact hf a around s₁ s₁' hlayout
  | error e => exact ⟨rfl, hlayout⟩

theorem blind_environment : Blind environment := fun _ _ _ h => ⟨rfl, h⟩

theorem blind_log (line : LogLine) : Blind (log line) := fun _ _ _ h => ⟨rfl, h⟩

theorem blind_ensureFolders (p : Path) : Blind (ensureFolders p) := by
  intro around s s' h
  obtain ⟨hresult, hlayout⟩ := h.ensureFoldersUpTo p p.names.length
  rw [runIn_ensureFolders, runIn_ensureFolders]
  cases p.holdsNull with
  | true => exact ⟨rfl, h⟩
  | false => exact ⟨congrArg (Except.mapError _) hresult, hlayout⟩

theorem blind_writeText (p : Path) (text : String) : Blind (writeText p text) := by
  intro around s s' h
  obtain ⟨hresult, hlayout⟩ := h.write p (Text.Utf8.encode text.toList)
  rw [runIn_writeText, runIn_writeText]
  cases p.holdsNull with
  | true => exact ⟨rfl, h⟩
  | false => exact ⟨congrArg (Except.mapError _) hresult, hlayout⟩

theorem blind_writeJson (p : Path) (v : Json) : Blind (writeJson p v) := by
  refine (blind_ensureFolders p.parent).bind fun _ => ?_
  split
  · exact blind_writeText p _
  · exact blind_throw _

end Act

/-! ## The two tools -/

/-- The order for a block of a place, with its code given or not. -/
def GenerationOrder.about (o : GenerationOrder) (place : BlockPlace) (name : String)
    (code : Option String) : GenerationOrder :=
  { o with place, blockName := name, code }

section

open Act

variable {place : BlockPlace} {name : String}

/-- Without a code, the tool does what it does with the one that is meant. -/
theorem analyzeBlock_none (hname : name ≠ "") : analyzeBlock place (some name) none
    = meantCode place name none >>= fun code => analyzeBlock place (some name) (some code) := by
  have hempty : name.isEmpty = false := by simpa using hname
  simp only [analyzeBlock, Option.getD_some, hempty]
  rfl

theorem GenerationOrder.run_about_none (o : GenerationOrder) : (o.about place name none).run
    = meantCode place name none >>= fun code => (o.about place name (some code)).run := by
  rw [GenerationOrder.run]
  exact bind_congr fun code => rfl

theorem blind_analyzeBlock (code : String) :
    Blind (analyzeBlock place (some name) (some code)) :=
  blind_ofExcept _ _

theorem GenerationOrder.blind_run (o : GenerationOrder) (code : String) :
    Blind (o.about place name (some code)).run := by
  refine (blind_pure code).bind fun _ => (blind_ofExcept _ _).bind fun block => ?_
  split
  · exact blind_pure _
  · split
    · refine blind_environment.bind fun env => (blind_writeJson _ _).bind fun _ => ?_
      exact (blind_log _).bind fun _ => blind_pure _
    · exact blind_throw_bind _ _

end

/-! ## What the tools work on -/

section

variable {place : BlockPlace} {name : String} {around : Surroundings} {s : Session} {α : Type}
  {tool : Option String → Act α}

/-- The tool, which may be given the code of a block, works on the block of a name as on the text of
the block's file, and on no other file. -/
structure WorksOnFile (around : Surroundings) (s : Session) (place : BlockPlace) (name : String)
    (tool : Option String → Act α) : Prop where
  /-- For a block with a file, the tool gives what it gives for the text of the file. -/
  asGiven : ∀ bytes text, (place.folder around.environment).HoldsCode s.disk name bytes →
    Text.Utf8.decode bytes = .ok text →
    (tool none).runIn around s
      = (tool (some (String.ofList (Text.normalizeNewlines text)))).runIn around s
  /-- A block without a file is not found. -/
  missing : (∀ bytes, ¬ (place.folder around.environment).HoldsCode s.disk name bytes) →
    ∃ e, e.isMissing = true ∧ (tool none).runIn around s = (.error (.source (.source e)), s)
  /-- What names nothing in a folder is never found: dots, and whatever has a slash. -/
  path : ¬ IsEntryName name →
    ∃ e, e.isMissing = true ∧ (tool none).runIn around s = (.error (.source (.source e)), s)
  /-- What other files hold makes no difference. -/
  others : ∀ s' : Session, s'.disk.IsTree → s.disk.SameLayout s'.disk →
    (∀ bytes, (place.folder around.environment).HoldsCode s.disk name bytes
      ↔ (place.folder around.environment).HoldsCode s'.disk name bytes) →
    ((tool none).runIn around s).1 = ((tool none).runIn around s').1

theorem worksOnFile (htree : s.disk.IsTree) (hlocal : place.repository.isTruthy = false)
    (hmeant : tool none = meantCode place name none >>= fun code => tool (some code))
    (hblind : ∀ code, Act.Blind (tool (some code))) : WorksOnFile around s place name tool := by
  -- All that the tool learns of the disk before it has a code is what looking up gives.
  have hrun (s : Session) : (tool none).runIn around s =
      match (place.folder around.environment).lookUp s.disk name with
      | .ok code => (tool (some code)).runIn around s
      | .error e => (.error (.source e), s) := by
    rw [hmeant, Act.runIn_bind, runIn_meantCode hlocal]
    cases (place.folder around.environment).lookUp s.disk name <;> rfl
  have hmissing (h : ∀ bytes, ¬ (place.folder around.environment).HoldsCode s.disk name bytes) :
      ∃ e, e.isMissing = true ∧ (tool none).runIn around s = (.error (.source (.source e)), s) := by
    obtain ⟨e, hlookUp, he⟩ := BlockFolder.lookUp_isMissing htree h
    exact ⟨e, he, by rw [hrun, hlookUp]⟩
  refine ⟨fun bytes text hheld htext => ?asGiven, hmissing, fun hname => ?path,
    fun s' htree' hlayout hcode => ?others⟩
  case asGiven => rw [hrun, BlockFolder.lookUp_of_holdsCode htree hheld htext]
  case path => exact hmissing fun bytes hheld => hname (hheld.isEntryName htree)
  case others =>
    rw [hrun, hrun, ← BlockFolder.lookUp_congr hlayout htree htree' hcode]
    cases (place.folder around.environment).lookUp s.disk name with
    | ok code => exact (hblind code around s s' hlayout).1
    | error e => rfl

/-- **A block is the text of its file.** Whatever lies in a project, both tools that work on one
block give for a name what they give for the text of one file, or say that there is no such block. -/
theorem tools_work_on_file (around : Surroundings) (htree : s.disk.IsTree)
    (hlocal : place.repository.isTruthy = false) (hname : name ≠ "") :
    WorksOnFile around s place name (analyzeBlock place (some name))
      ∧ ∀ o : GenerationOrder,
        WorksOnFile around s place name fun code => (o.about place name code).run :=
  ⟨worksOnFile htree hlocal (analyzeBlock_none hname) blind_analyzeBlock,
    fun o => worksOnFile htree hlocal o.run_about_none o.blind_run⟩

end

/-- A session with a block whose code ends its line in two characters, and with a style. -/
def Session.styledHero (style : List UInt8) : Session :=
  { disk := ⟨[(["work"], .folder), (["work", "blocks"], .folder),
      (["work", "blocks", "hero"], .folder),
      (["work", "blocks", "hero", "hero.js"], .file (Text.Utf8.encode "export default 1;\r\n".toList)),
      (["work", "blocks", "hero", "hero.css"], .file style)], ["work"]⟩ }

theorem isTree_styledHero (style : List UInt8) : (Session.styledHero style).disk.IsTree where
  distinct := by simp [Session.styledHero]
  named := by simp [Session.styledHero, IsEntryName, Path.IsFileName]

theorem tools_work_on_file_styledHero :
    (analyzeBlock {} (some "hero") none).runIn .offline (.styledHero [])
        = (analyzeBlock {} (some "hero") (some "export default 1;\n")).runIn .offline (.styledHero [])
      ∧ (((default : GenerationOrder).about {} "hero" none).run.runIn .offline (.styledHero [])).1
        = (((default : GenerationOrder).about {} "hero" none).run.runIn .offline
          (.styledHero [0xFF])).1
      ∧ ∃ e, e.isMissing = true ∧ (analyzeBlock {} (some "../blocks/hero") none).runIn .offline
        (.styledHero []) = (.error (.source (.source e)), .styledHero []) := by
  have hlocal : ({} : BlockPlace).repository.isTruthy = false := rfl
  have htree := isTree_styledHero
  have hheld (style : List UInt8) : (BlockPlace.folder {} []).HoldsCode
      (Session.styledHero style).disk "hero" (Text.Utf8.encode "export default 1;\r\n".toList) :=
    ⟨rfl, rfl, rfl, rfl⟩
  have hlayout : (Session.styledHero []).disk.SameLayout (Session.styledHero [0xFF]).disk :=
    .put_file (l := ["work", "blocks", "hero", "hero.css"]) rfl [0xFF]
  have hhero : "hero" ≠ "" := by decide
  have hpath : "../blocks/hero" ≠ "" := by decide
  obtain ⟨hanalysis, hgeneration⟩ := tools_work_on_file .offline (htree []) hlocal hhero
  obtain ⟨houtside, -⟩ := tools_work_on_file .offline (htree []) hlocal hpath
  have hnewline : String.ofList (Text.normalizeNewlines "export default 1;\r\n".toList)
      = "export default 1;\n" := by decide
  have hgiven := hanalysis.asGiven _ _ (hheld []) (Text.Utf8.decode_encode _)
  rw [hnewline] at hgiven
  refine ⟨hgiven, ?_, houtside.path ?_⟩
  · refine (hgeneration default).others _ (htree [0xFF]) hlayout fun bytes => ?_
    exact ⟨fun h => h.unique (hheld []) ▸ hheld [0xFF], fun h => h.unique (hheld [0xFF]) ▸ hheld []⟩
  · rintro ⟨⟨-, -, hslash⟩, -⟩
    exact hslash (by decide)

end BlockAuthoring
