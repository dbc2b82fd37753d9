import BlockAuthoring.Proofs.Tool.Lookup
import Mathlib.Data.List.Forall2

/-!
# Blocks of a folder, one by one

A listing of a folder of blocks goes through the folders that lie directly in it, in the order of
their names and each of them once. For a name there is at most one entry, and looking for the name
gives it. None of this depends on the order in which the entries of the disk stand.
-/

namespace BlockAuthoring

/-! ## Disks in another order -/

namespace Disk

/-- The disks hold the same, but may give it in another order. -/
structure Reordered (d d' : Disk) : Prop where
  here : d.here = d'.here
  entries : d.entries.Perm d'.entries

namespace Reordered

variable {d d' : Disk}

theorem isTree (h : d.Reordered d') (htree : d.IsTree) : d'.IsTree where
  distinct := (h.entries.map _).nodup_iff.mp htree.distinct
  named := fun e he => htree.named e (h.entries.mem_iff.mpr he)

theorem node?_eq (h : d.Reordered d') (htree : d.IsTree) (l : Location) : d.node? l = d'.node? l := by
  cases l with
  | nil => rfl
  | cons name l => exact lookup_perm htree.distinct h.entries _

theorem sameLayout (h : d.Reordered d') (htree : d.IsTree) : d.SameLayout d' where
  here := h.here
  nodes := by
    intro l
    rw [h.node?_eq htree]
    exact .refl _

theorem namesAt_perm (h : d.Reordered d') (l : Location) : (d.namesAt l).Perm (d'.namesAt l) := by
  rw [namesAt_eq, namesAt_eq]
  exact (h.entries.map _).filterMap _

end Reordered

end Disk

/-! ## The listing of a folder -/

namespace BlockFolder

variable {f : BlockFolder} {d d' : Disk} {l : Location} {name : String}

/-- The entry tells of the folder of a name: where it is, and which files of its name are in it. -/
structure Describes (f : BlockFolder) (d : Disk) (l : Location) (name : String) (b : BlockInfo) :
    Prop where
  called : b.name = .string name
  path : b.path = (f.path.join name).toString
  hasCode : b.hasCode = true ↔
    ∃ bytes, d.node? (l ++ [name] ++ [name ++ ".js"]) = some (.file bytes)
  hasStyle : b.hasStyle = true ↔
    ∃ bytes, d.node? (l ++ [name] ++ [name ++ ".css"]) = some (.file bytes)
  source : b.source = .folder
  url : b.url = .null

/-- The blocks are those of the folders at a location, in the order of their names. -/
structure Enumerates (f : BlockFolder) (d : Disk) (l : Location) (names : List String)
    (blocks : List BlockInfo) : Prop where
  ordered : names.Pairwise (· < ·)
  complete : ∀ name, name ∈ names ↔ d.node? (l ++ [name]) = some .folder
  described : List.Forall₂ (f.Describes d l) names blocks

namespace LiesAt

theorem pairwise_blockNames (h : f.LiesAt d l) : (f.blockNames d).Pairwise (· < ·) := by
  rw [h.blockNames_eq]
  generalize hnames : (d.namesAt l).filter (fun name => d.node? (l ++ [name]) == some .folder)
    = names
  have hnodup : names.Nodup := hnames ▸ (h.tree.nodup_namesAt l).filter _
  have hdistinct := (BlockInfo.perm_byName names).nodup_iff.mpr hnodup
  -- No name comes twice, so of two names that are in order the first one is less.
  refine ((BlockInfo.pairwise_byName names).and hdistinct).imp ?_
  intro a b hab
  exact lt_of_le_of_ne hab.1 hab.2

theorem describes_info (h : f.LiesAt d l) (hblock : d.node? (l ++ [name]) = some .folder) :
    f.Describes d l name (f.info d name) where
  called := rfl
  path := rfl
  hasCode := by
    show d.isFile (f.codePath name) = true ↔ _
    rw [Disk.isFile_iff, h.find?_codePath hblock]
    rfl
  hasStyle := by
    show d.isFile (f.stylePath name) = true ↔ _
    rw [Disk.isFile_iff, h.find?_stylePath hblock]
    rfl
  source := rfl
  url := rfl

theorem enumerates (h : f.LiesAt d l) :
    f.Enumerates d l (f.blockNames d) ((f.blockNames d).map (f.info d)) where
  ordered := h.pairwise_blockNames
  complete := fun _ => h.mem_blockNames_iff
  described := by
    rw [List.forall₂_map_right_iff, List.forall₂_same]
    intro name hname
    exact h.describes_info (h.mem_blockNames_iff.mp hname)

theorem list_eq (h : f.LiesAt d l) : f.list d = .ok ((f.blockNames d).map (f.info d)) := by
  rw [list, if_pos h.isFolder_path]

theorem reordered (h : f.LiesAt d l) (horder : d.Reordered d') : f.LiesAt d' l where
  tree := horder.isTree h.tree
  located := by rw [← (horder.sameLayout h.tree).locate_eq, h.located]
  folder := by rw [← horder.node?_eq h.tree, h.folder]

/-- The order of the disk makes no difference to the listing. -/
theorem list_reordered (h : f.LiesAt d l) (horder : d.Reordered d') : f.list d = f.list d' := by
  have hlayout := horder.sameLayout h.tree
  have hnames : f.blockNames d = f.blockNames d' := by
    rw [h.blockNames_eq, (h.reordered horder).blockNames_eq]
    refine BlockInfo.byName_congr ?_
    simp only [horder.node?_eq h.tree]
    exact (horder.namesAt_perm l).filter _
  have hinfo : f.info d = f.info d' := by
    funext name
    rw [info, info, hlayout.isFile_eq, hlayout.isFile_eq]
  rw [h.list_eq, (h.reordered horder).list_eq, hnames, hinfo]

end LiesAt

end BlockFolder

/-! ## Reading the folder -/

namespace BlockSource

variable {f : BlockFolder} {l : Location} {s : Session}

/-- **A folder, block by block.** Listing a folder of blocks gives one entry for each folder that
lies directly in it and no other, by name. Looking for a name gives the entry of the folder of that
name, and says that there is none if there is no such folder. In another order, the entries of the
disk give the same listing. -/
theorem list_enumerates (around : Surroundings) (h : f.LiesAt s.disk l) :
    ∃ names blocks, f.Enumerates s.disk l names blocks
      ∧ (folder f).list.runIn around s = (.ok blocks, s)
      ∧ (∀ name ∈ names, ∃ b ∈ blocks, f.Describes s.disk l name b
        ∧ ((folder f).find name).runIn around s = (.ok b, s))
      ∧ (∀ name, name ∉ names → ((folder f).find name).runIn around s
        = (.error (.source (.source (.blockMissing name))), s))
      ∧ ∀ s', s.disk.Reordered s'.disk → (folder f).list.runIn around s' = (.ok blocks, s') := by
  refine ⟨_, _, h.enumerates, ?_, ?_, ?_, ?_⟩
  · rw [runIn_list_folder, h.list_eq]
    rfl
  · intro name hname
    refine ⟨f.info s.disk name, List.mem_map_of_mem hname,
      h.describes_info (h.mem_blockNames_iff.mp hname), ?_⟩
    rw [runIn_find_folder, BlockFolder.findBlock_list, if_pos h.isFolder_path, if_pos hname]
    rfl
  · intro name hname
    rw [runIn_find_folder, BlockFolder.findBlock_list, if_pos h.isFolder_path, if_neg hname]
    rfl
  · intro s' horder
    rw [runIn_list_folder, ← h.list_reordered horder, h.list_eq]
    rfl

/-- A project whose folder of blocks holds a file and three folders, given out of order. One of the
folders is named like a code, and so is a folder in another one. -/
def mixedBlocks : Session :=
  { disk := ⟨[(["work"], .folder), (["work", "blocks"], .folder),
      (["work", "blocks", "hero"], .folder), (["work", "blocks", "notes.md"], .file []),
      (["work", "blocks", "hero", "hero.css"], .file []), (["work", "blocks", "cards"], .folder),
      (["work", "blocks", "cards", "cards.js"], .folder),
      (["work", "blocks", "Hero.js"], .folder),
      (["work", "blocks", "hero", "hero.js"], .file [])], ["work"]⟩ }

theorem liesAt_mixedBlocks :
    BlockFolder.LiesAt ⟨⟨0, ["blocks"]⟩⟩ mixedBlocks.disk ["work", "blocks"] where
  tree := {
    distinct := by decide
    named := by simp [mixedBlocks, Path.IsEntryName, Path.IsFileName] }
  located := by
    simp [mixedBlocks, Disk.locate, Disk.follow, Disk.node?, Path.isAbsolute]
  folder := by simp [mixedBlocks, Disk.node?, List.lookup_cons]

/-- The folders of the project are listed, and the file is not found. -/
theorem list_enumerates_mixedBlocks :
    let f : BlockFolder := ⟨⟨0, ["blocks"]⟩⟩
    f.LiesAt mixedBlocks.disk ["work", "blocks"]
      ∧ ∃ blocks, f.Enumerates mixedBlocks.disk ["work", "blocks"] ["Hero.js", "cards", "hero"] blocks
      ∧ (folder f).list.runIn .offline mixedBlocks = (.ok blocks, mixedBlocks)
      ∧ (∃ b ∈ blocks, f.Describes mixedBlocks.disk ["work", "blocks"] "cards" b
        ∧ ((folder f).find "cards").runIn .offline mixedBlocks = (.ok b, mixedBlocks))
      ∧ ((folder f).find "notes.md").runIn .offline mixedBlocks
        = (.error (.source (.source (.blockMissing "notes.md"))), mixedBlocks) := by
  obtain ⟨names, blocks, henumerates, hlist, hfind, hmissing, -⟩ :=
    list_enumerates .offline liesAt_mixedBlocks
  have hfolders : ∀ name, mixedBlocks.disk.node? (["work", "blocks"] ++ [name]) = some .folder ↔
      name ∈ ["Hero.js", "cards", "hero"] := by
    intro name
    rw [Disk.node?_append_name, lookup_eq_some_iff_mem liesAt_mixedBlocks.tree.distinct]
    simp [mixedBlocks]
    tauto
  have hnames : names = ["Hero.js", "cards", "hero"] :=
    henumerates.ordered.eq_of_mem_iff (by decide)
      fun name => (henumerates.complete name).trans (hfolders name)
  subst hnames
  exact ⟨liesAt_mixedBlocks, blocks, henumerates, hlist, hfind "cards" (by decide),
    hmissing "notes.md" (by decide)⟩

end BlockSource

end BlockAuthoring
