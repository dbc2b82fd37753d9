import BlockAuthoring.Proofs.Disk.Folder
import BlockAuthoring.Proofs.Source.Listing
import BlockAuthoring.Source.Folder

/-!
# Blocks in a folder of a tree

A listing tells of every folder in the folder of blocks, by name. Whether a block has code, and
which, is decided by what lies at one place.
-/

namespace BlockAuthoring.BlockFolder

open BlockAuthoring.Path (IsEntryName)

variable {f : BlockFolder} {d : Disk} {l : Location} {name : String}

/-! ## Names -/

theorem isEntryName_codeFile (hname : IsEntryName name) : IsEntryName (BlockInfo.codeFile name) :=
  Path.isEntryName_append hname.1.2.2 (by decide) (by decide)

theorem isEntryName_styleFile (hname : IsEntryName name) :
    IsEntryName (BlockInfo.styleFile name) :=
  Path.isEntryName_append hname.1.2.2 (by decide) (by decide)

/-! ## Blocks of a tree -/

/-- The order of the paths of blocks is that of their names. -/
theorem blockNames_eq_byName : f.blockNames d = BlockInfo.byName
    ((d.namesIn f.path).filter fun name => d.isFolder (f.path.child name)) := by
  rw [blockNames, blockFolders, List.filter_map, BlockInfo.byName]
  have hsorted := List.map_mergeSort (f := f.path.child) (r := fun a b : String => decide (a ≤ b))
    (s := fun p q : Path => !q.isBefore p)
    (l := (d.namesIn f.path).filter (d.isFolder ∘ f.path.child)) fun a _ b _ => by
      rw [Path.isBefore_child, ← decide_not, decide_eq_decide, not_lt]
  rw [← hsorted, List.map_map]
  have hname : Path.name ∘ f.path.child = id := funext (Path.name_child f.path)
  rw [hname, List.map_id]
  rfl

theorem mem_blockNames : name ∈ f.blockNames d ↔
    name ∈ d.namesIn f.path ∧ d.isFolder (f.path.child name) = true := by
  rw [blockNames_eq_byName, (BlockInfo.perm_byName _).mem_iff, List.mem_filter]

/-- The folder of blocks is there, at a location of a tree. -/
structure LiesAt (f : BlockFolder) (d : Disk) (l : Location) : Prop where
  tree : d.IsTree
  located : d.locate f.path = .ok l
  folder : d.node? l = some .folder

namespace LiesAt

theorem isFolder_path (h : f.LiesAt d l) : d.isFolder f.path = true := by
  simp [Disk.isFolder, Disk.find?, h.located, h.folder]

/-- The blocks are the folders in the folder of blocks, by name. -/
theorem blockNames_eq (h : f.LiesAt d l) :
    f.blockNames d = BlockInfo.byName
      ((d.namesAt l).filter fun name => d.node? (l ++ [name]) == some .folder) := by
  have hnames : (d.namesAt l).filter (fun name => d.isFolder (f.path.child name))
      = (d.namesAt l).filter fun name => d.node? (l ++ [name]) == some .folder := by
    refine List.filter_congr fun name hname => ?_
    have hentry := h.tree.isEntryName (Disk.mem_namesAt_iff.mp hname)
    have hchild : f.path.child name = f.path.join name :=
      (Path.join_of_isFileName _ hentry.1).symm
    rw [Disk.isFolder, hchild, Disk.find?_entry h.located h.folder hentry]
  rw [blockNames_eq_byName, Disk.namesIn, h.located]
  exact congrArg _ hnames

theorem mem_blockNames_iff (h : f.LiesAt d l) :
    name ∈ f.blockNames d ↔ d.node? (l ++ [name]) = some .folder := by
  rw [h.blockNames_eq, (BlockInfo.perm_byName _).mem_iff, List.mem_filter, Disk.mem_namesAt_iff,
    beq_iff_eq]
  exact ⟨fun h => h.2, fun hnode => ⟨by rw [hnode]; rfl, hnode⟩⟩

theorem isEntryName (h : f.LiesAt d l) (hblock : d.node? (l ++ [name]) = some .folder) :
    IsEntryName name :=
  h.tree.isEntryName (by rw [hblock]; rfl)

/-- What lies in the folder of a block. -/
theorem find?_inBlock (h : f.LiesAt d l) (hblock : d.node? (l ++ [name]) = some .folder)
    {file : String} (hfile : IsEntryName file) :
    d.find? ((f.blockPath name).join file) = d.node? (l ++ [name] ++ [file]) :=
  Disk.find?_entry (Disk.locate_entry h.located h.folder (h.isEntryName hblock)) hblock hfile

theorem find?_codePath (h : f.LiesAt d l) (hblock : d.node? (l ++ [name]) = some .folder) :
    d.find? (f.codePath name) = d.node? (l ++ [name] ++ [BlockInfo.codeFile name]) :=
  h.find?_inBlock hblock (isEntryName_codeFile (h.isEntryName hblock))

theorem find?_stylePath (h : f.LiesAt d l) (hblock : d.node? (l ++ [name]) = some .folder) :
    d.find? (f.stylePath name) = d.node? (l ++ [name] ++ [BlockInfo.styleFile name]) :=
  h.find?_inBlock hblock (isEntryName_styleFile (h.isEntryName hblock))

/-! ## Code -/

/-- The code of a block is its file's text, with every line end as a newline. -/
theorem code_of_file (h : f.LiesAt d l) (hblock : d.node? (l ++ [name]) = some .folder)
    {bytes : List UInt8} {text : List Char}
    (hnode : d.node? (l ++ [name] ++ [BlockInfo.codeFile name]) = some (.file bytes))
    (htext : Text.Utf8.decode bytes = .ok text) :
    f.code d name = .ok (String.ofList (Text.normalizeNewlines text)) := by
  have hfile : d.isFile (f.codePath name) = true :=
    Disk.isFile_iff.mpr ⟨bytes, (h.find?_codePath hblock).trans hnode⟩
  have hlocated := Disk.locate_entry
    (Disk.locate_entry h.located h.folder (h.isEntryName hblock)) hblock
    (isEntryName_codeFile (h.isEntryName hblock))
  have hread : d.read (f.codePath name) = .ok bytes := Disk.read_entry hlocated hnode
  simp only [code, hfile, Disk.readText, hread, htext, Bool.not_true, Bool.false_eq_true, if_false]

/-- A block without a file of that name has no code, whatever else has the name. -/
theorem code_of_not_file (h : f.LiesAt d l) (hblock : d.node? (l ++ [name]) = some .folder)
    (hnode : ∀ bytes, d.node? (l ++ [name] ++ [BlockInfo.codeFile name]) ≠ some (.file bytes)) :
    f.code d name = .error (.source (.codeMissing name)) := by
  have hfile : d.isFile (f.codePath name) = false := by
    rw [Bool.eq_false_iff, ne_eq, Disk.isFile_iff, h.find?_codePath hblock]
    exact fun ⟨bytes, hbytes⟩ => hnode bytes hbytes
  have hparent : (f.codePath name).parent = f.blockPath name := by
    rw [codePath, Path.join_of_isFileName _ (isEntryName_codeFile (h.isEntryName hblock)).1,
      Path.parent, List.dropLast_concat]
  have hfolder : d.isFolder (f.blockPath name) = true := by
    rw [Disk.isFolder, blockPath, Disk.find?_entry h.located h.folder (h.isEntryName hblock),
      hblock]
    rfl
  simp only [code, hfile, hparent, hfolder, Bool.not_false, if_true]

end LiesAt

end BlockAuthoring.BlockFolder
