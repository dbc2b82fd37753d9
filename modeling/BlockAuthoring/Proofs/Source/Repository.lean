import BlockAuthoring.Proofs.Source.Contents
import BlockAuthoring.Proofs.Source.Listing

/-!
# The listing of a repository that lies on a disk

A listing tells of every folder in the folder of blocks, by name. A block has code if anything in
its folder is called so: the type of what is called so is not asked for.
-/

namespace BlockAuthoring

open BlockAuthoring.Path (IsEntryName)

theorem Json.Tells.get_name {item : Json} {name : String} {n : Node} (h : item.Tells name n) :
    item.get "name" = .string name := by
  rw [Json.get, h.name]
  rfl

theorem Json.Tells.isObject {item : Json} {name : String} {n : Node} (h : item.Tells name n) :
    item.isObject = true :=
  isObject_of_member? h.name

namespace Repository

open Asking

variable {r : Repository} {service : Service} {d : Disk} {name : String} {item : Json}
  {l : BlockAuthoring.Location}

/-! ## Names of items -/

theorem map_name_shown {items : List Json} (h : d.ListedBy l items) :
    (items.map fun item => (item.get "name").shown).Perm (d.namesAt l) := by
  have hshown := h.complete.map Json.shown
  simpa [List.map_map, Function.comp_def, Json.shown] using hshown

theorem fileName_of_tells {n : Node} (h : item.Tells name n) :
    fileName item = .ok (item.get "name") := by
  rw [fileName_eq_ok h.name, h.get_name]

theorem isBlock_of_tells {n : Node} (h : item.Tells name n) :
    isBlock item = .ok (n == .folder) := by
  rw [isBlock_eq_ok h.isObject, Json.get, h.type]
  cases n <;> rfl

/-! ## Blocks -/

/-- What a listing tells of the block of a name. -/
def entryOf (r : Repository) (d : Disk) (l : BlockAuthoring.Location) (name : String)
    (url : Json) : BlockInfo :=
  { name := .string name
    path := r.blockPath name
    hasCode := (d.node? (l ++ [name] ++ [BlockInfo.codeFile name])).isSome
    hasStyle := (d.node? (l ++ [name] ++ [BlockInfo.styleFile name])).isSome
    source := .repository
    url }

/-- What a listing tells of an item in the folder of blocks; only folders are blocks. -/
def told? (r : Repository) (d : Disk) (l : BlockAuthoring.Location) (item : Json) :
    Option BlockInfo :=
  let name := (item.get "name").shown
  if d.node? (l ++ [name]) = some .folder then some (r.entryOf d l name (item.get "html_url"))
  else none

theorem eq_entryOf_of_told? {b : BlockInfo} (h : r.told? d l item = some b) :
    ∃ name url, d.node? (l ++ [name]) = some .folder ∧ b = r.entryOf d l name url := by
  unfold told? at h
  dsimp only at h
  split at h
  · rename_i hblock
    exact ⟨_, _, hblock, (Option.some.inj h).symm⟩
  · cases h

theorem map_name_told (items : List Json) :
    (items.filterMap (r.told? d l)).map (·.name.shown)
      = (items.map fun item => (item.get "name").shown).filter
        fun name => d.node? (l ++ [name]) == some .folder := by
  induction items with
  | nil => rfl
  | cons item items ih =>
    rw [List.map_cons, List.filter_cons, List.filterMap_cons]
    by_cases hblock : d.node? (l ++ [(item.get "name").shown]) = some .folder
    · simp only [told?, hblock, if_true, beq_self_eq_true]
      rw [List.map_cons, ih]
      rfl
    · simp only [told?, hblock, if_false, beq_iff_eq]
      exact ih

/-- A name is in the listing of a folder iff something lies there. -/
theorem any_names {items : List Json} (h : d.ListedBy l items) (file : String) :
    ((items.map (·.get "name")).any fun f => f.string? == some file)
      = (d.node? (l ++ [file])).isSome := by
  rw [h.complete.any_eq, Bool.eq_iff_iff, ← Disk.mem_namesAt_iff]
  simp [Json.string?]

/-- An item is asked about if it is a folder. -/
theorem gives_info? (hbase : r.baseUrl.toList.getLast? ≠ some '/') (hserves : r.Serves service d l)
    (hname : IsEntryName name) {n : Node} (hlies : d.node? (l ++ [name]) = some n)
    (htells : item.Tells name n) (hreaches : n = .folder → r.Reaches (r.blockPath name)) :
    Gives service (r.info? item) (.ok (r.told? d l item)) := by
  have hblock : Gives service (liftM (isBlock item)) (.ok (n == .folder)) :=
    isBlock_of_tells htells ▸ gives_lift (isBlock item)
  refine hblock.bind ?_
  cases n with
  | file bytes =>
    have htold : r.told? d l item = none := by
      simp [told?, htells.get_name, Json.shown, hlies]
    rw [htold]
    exact gives_pure none
  | folder =>
    have hshows (request : Request)
        (hpath : request.address.plainPath = some (r.root ++ r.blockPath name)) :=
      hserves request [name] (by simpa using hname) hpath
    obtain ⟨items, hlisted, hfolder⟩ := gives_folder hbase (hreaches rfl) hshows hlies
    have hnames :
        Gives service (items.mapM (liftM <| fileName ·)) (.ok (items.map (·.get "name"))) := by
      refine gives_mapM items fun item' hitem' => ?_
      obtain ⟨name', n', -, htells'⟩ := hlisted.each item' hitem'
      exact fileName_of_tells htells' ▸ gives_lift (fileName item')
    have hblockName : Gives service (liftM (blockName item)) (.ok (.string name)) :=
      blockName_eq_ok htells.name ▸ gives_lift (blockName item)
    have htold : r.told? d l item
        = some (r.infoOf item (.string name) (items.map (·.get "name"))) := by
      simp only [told?, entryOf, infoOf, htells.get_name, Json.shown, hlies, if_true,
        any_names hlisted]
    rw [htold]
    exact hblockName.bind (hfolder.bind (hnames.bind (gives_pure _)))

/-! ## Listings -/

/-- The listing of a repository tells of every folder, by name. -/
theorem gives_list (hbase : r.baseUrl.toList.getLast? ≠ some '/') (hserves : r.Serves service d l)
    (htree : d.IsTree) (hlies : d.node? l = some .folder) (hreaches : r.Reaches r.blocksPath)
    (hblocks : ∀ name, d.node? (l ++ [name]) = some .folder → r.Reaches (r.blockPath name)) :
    ∃ blocks, Gives service r.list (.ok blocks)
      ∧ blocks.map (·.name.shown) = BlockInfo.byName
        ((d.namesAt l).filter fun name => d.node? (l ++ [name]) == some .folder)
      ∧ ∀ b ∈ blocks, ∃ name url,
        d.node? (l ++ [name]) = some .folder ∧ b = r.entryOf d l name url := by
  have hshows (request : Request)
      (hpath : request.address.plainPath = some (r.root ++ r.blocksPath)) :
      (service request).Shows d l := by
    simpa using hserves request [] (by simp) hpath
  obtain ⟨items, hlisted, hfolder⟩ := gives_folder hbase hreaches hshows hlies
  have hasked : Gives service (items.filterMapM r.info?) (.ok (items.filterMap (r.told? d l))) := by
    refine gives_filterMapM items fun item hitem => ?_
    obtain ⟨name, n, hnode, htells⟩ := hlisted.each item hitem
    have hname : IsEntryName name := htree.isEntryName (by rw [hnode]; rfl)
    exact gives_info? hbase hserves hname hnode htells fun hn => hblocks name (hn ▸ hnode)
  have hnamed : ∀ b ∈ items.filterMap (r.told? d l), b.IsNamed := by
    intro b hb
    obtain ⟨item, -, htold⟩ := List.mem_filterMap.mp hb
    obtain ⟨name, url, -, rfl⟩ := eq_entryOf_of_told? htold
    exact ⟨name, rfl⟩
  obtain ⟨blocks, hsorted, hperm, hnames⟩ := BlockInfo.sortByName_eq_ok hnamed
  refine ⟨blocks, ?_, ?_, fun b hb => ?_⟩
  · refine hfolder.bind (hasked.bind ?_)
    rw [hsorted]
    exact gives_lift _
  · rw [hnames, map_name_told]
    exact BlockInfo.byName_congr ((map_name_shown hlisted).filter _)
  · obtain ⟨item, -, htold⟩ := List.mem_filterMap.mp (hperm.mem_iff.mp hb)
    exact eq_entryOf_of_told? htold

end Repository

end BlockAuthoring
