import BlockAuthoring.Proofs.Disk.Frame

/-!
# Storing files

Folders are made, and then files are written one after another. Whether that succeeds is decided by
the folders alone, and what a location holds afterwards by the files alone, if they touch it. So
files for different locations may be stored in either order, and storing files again changes
nothing.
-/

namespace BlockAuthoring.Disk

variable {d d' d'' e e' : Disk} {p way : Path} {l : Location} {bytes : List UInt8}
  {files files' : List (Path × List UInt8)}

/-! ## Changes of what disks hold -/

/-- Paths start from the same location on both disks, and every location holds the same. The
entries may stand in another order. -/
structure Same (d d' : Disk) : Prop where
  here : d.here = d'.here
  nodes : ∀ l, d.node? l = d'.node? l

theorem Same.refl (d : Disk) : Same d d := ⟨rfl, fun _ => rfl⟩

/-- Where one change can be made and then the other one, they can be made in the other order, and
the disk then holds the same. -/
def Swappable (change change' : Disk → Disk → Prop) : Prop :=
  ∀ d d' d'', change d d' → change' d' d'' →
    ∃ e e', change' d e ∧ change e e' ∧ Same d'' e'

/-- Where the change was made it can be made again, and the disk then still holds the same. -/
def Repeatable (change : Disk → Disk → Prop) : Prop :=
  ∀ d d', change d d' → ∃ d'', change d' d'' ∧ Same d' d''

theorem swappable_eq_left (change : Disk → Disk → Prop) : Swappable Eq change := by
  rintro d _ d'' rfl hchange
  exact ⟨d'', d'', hchange, rfl, .refl d''⟩

theorem swappable_eq_right (change : Disk → Disk → Prop) : Swappable change Eq := by
  rintro d d' _ hchange rfl
  exact ⟨d, d', rfl, hchange, .refl d'⟩

theorem repeatable_eq : Repeatable Eq := by
  rintro d _ rfl
  exact ⟨d, rfl, .refl d⟩

/-! ## The same folders -/

/-- Paths start from the same location on both disks, and the same locations are folders. -/
structure SameFolders (d d' : Disk) : Prop where
  here : d.here = d'.here
  nodes : ∀ l, d.node? l = some .folder ↔ d'.node? l = some .folder

namespace SameFolders

theorem refl (d : Disk) : SameFolders d d := ⟨rfl, fun _ => Iff.rfl⟩

theorem symm (h : SameFolders d d') : SameFolders d' d :=
  ⟨h.here.symm, fun l => (h.nodes l).symm⟩

theorem trans (h : SameFolders d d') (h' : SameFolders d' d'') : SameFolders d d'' :=
  ⟨h.here.trans h'.here, fun l => (h.nodes l).trans (h'.nodes l)⟩

theorem follow (h : SameFolders d d') {names : List String} {k : Location}
    (hk : d.follow l names = .ok k) : d'.follow l names = .ok k := by
  induction names generalizing l with
  | nil => exact hk
  | cons name names ih =>
    rw [Disk.follow] at hk ⊢
    cases hl : d.node? l with
    | none => rw [hl] at hk; cases hk
    | some n =>
      rw [hl] at hk
      cases n with
      | file bytes => cases hk
      | folder =>
        rw [(h.nodes l).mp hl]
        exact ih hk

/-- Only folders decide where a path leads to. -/
theorem locate (h : SameFolders d d') (hl : d.locate p = .ok l) : d'.locate p = .ok l := by
  rw [Disk.locate] at hl ⊢
  rw [← h.here]
  exact h.follow hl

theorem isFolder (h : SameFolders d d') (hp : d.isFolder p = true) : d'.isFolder p = true := by
  obtain ⟨l, hl, hnode⟩ := isFolder_iff.mp hp
  exact isFolder_iff.mpr ⟨l, h.locate hl, (h.nodes l).mp hnode⟩

end SameFolders

/-! ## Writing one file after another -/

/-- The path leads to a location where no folder is. -/
def Free (d : Disk) (p : Path) : Prop := ∃ l, d.locate p = .ok l ∧ d.node? l ≠ some .folder

theorem SameFolders.free (h : SameFolders d d') (hp : d.Free p) : d'.Free p := by
  obtain ⟨l, hl, hnode⟩ := hp
  exact ⟨l, h.locate hl, fun hfolder => hnode ((h.nodes l).mpr hfolder)⟩

theorem putFile_eq_ok_iff : d.putFile p bytes = .ok d' ↔
    ∃ l, d.locate p = .ok l ∧ d.node? l ≠ some .folder ∧ d.put l (.file bytes) = d' := by
  unfold putFile
  cases d.locate p with
  | error fault => simp
  | ok l =>
    dsimp only
    split
    · rename_i hfolder
      simp [hfolder]
    · rename_i hfolder
      simpa using fun _ => hfolder

theorem SameFolders.of_putFile (h : d.putFile p bytes = .ok d') : SameFolders d d' := by
  obtain ⟨l, -, hnode, rfl⟩ := putFile_eq_ok_iff.mp h
  refine ⟨(here_put d l _).symm, fun k => ?_⟩
  rw [node?_put (ne_nil_of_node? hnode)]
  split
  · rename_i hk
    simp [hk, hnode]
  · exact Iff.rfl

/-- Writes files, one after another. -/
def putFiles (d : Disk) (files : List (Path × List UInt8)) : Except DiskError Disk :=
  files.foldlM (fun d file => d.putFile file.1 file.2) d

theorem putFiles_nil : d.putFiles [] = .ok d := rfl

theorem putFiles_singleton (d : Disk) (p : Path) (bytes : List UInt8) :
    d.putFiles [(p, bytes)] = d.putFile p bytes := by
  rw [putFiles, List.foldlM_cons]
  cases d.putFile p bytes <;> rfl

theorem putFiles_cons_iff {file : Path × List UInt8} : d.putFiles (file :: files) = .ok d'' ↔
    ∃ d', d.putFile file.1 file.2 = .ok d' ∧ d'.putFiles files = .ok d'' := by
  rw [putFiles, List.foldlM_cons]
  exact bind_eq_ok_iff

theorem SameFolders.of_putFiles (h : d.putFiles files = .ok d') : SameFolders d d' := by
  induction files generalizing d with
  | nil =>
    cases h
    exact .refl _
  | cons file files ih =>
    obtain ⟨d₁, hfile, hfiles⟩ := putFiles_cons_iff.mp h
    exact (SameFolders.of_putFile hfile).trans (ih hfiles)

/-- Files can be written iff no folder is where one of them is to be, and each lies in one. -/
theorem exists_putFiles_iff : (∃ d', d.putFiles files = .ok d') ↔ ∀ file ∈ files, d.Free file.1 := by
  induction files generalizing d with
  | nil => simp [putFiles_nil]
  | cons file files ih =>
    rw [List.forall_mem_cons]
    constructor
    · rintro ⟨d'', h⟩
      obtain ⟨d₁, hfile, hfiles⟩ := putFiles_cons_iff.mp h
      obtain ⟨l, hl, hnode, -⟩ := putFile_eq_ok_iff.mp hfile
      refine ⟨⟨l, hl, hnode⟩, fun other hother => ?_⟩
      exact (SameFolders.of_putFile hfile).symm.free (ih.mp ⟨d'', hfiles⟩ other hother)
    · rintro ⟨⟨l, hl, hnode⟩, hfree⟩
      have hfile : d.putFile file.1 file.2 = .ok (d.put l (.file file.2)) :=
        putFile_eq_ok_iff.mpr ⟨l, hl, hnode, rfl⟩
      have hkept := SameFolders.of_putFile hfile
      obtain ⟨d'', hfiles⟩ := ih.mpr fun other hother => hkept.free (hfree other hother)
      exact ⟨d'', putFiles_cons_iff.mpr ⟨_, hfile, hfiles⟩⟩

/-- Some of the files is to lie at the location. -/
def Touched (d : Disk) (files : List (Path × List UInt8)) (l : Location) : Prop :=
  ∃ file ∈ files, d.locate file.1 = .ok l

theorem SameFolders.touched (h : SameFolders d d') (hl : d.Touched files l) :
    d'.Touched files l := by
  obtain ⟨file, hfile, hlocate⟩ := hl
  exact ⟨file, hfile, h.locate hlocate⟩

/-- A location that is touched holds the same afterwards, whatever it held before. -/
theorem putFiles_congr (hfolders : SameFolders d e) (h : d.putFiles files = .ok d')
    (h' : e.putFiles files = .ok e') (hl : d.node? l = e.node? l ∨ d.Touched files l) :
    d'.node? l = e'.node? l := by
  induction files generalizing d e with
  | nil =>
    cases h
    cases h'
    obtain hsame | ⟨file, hfile, -⟩ := hl
    · exact hsame
    · cases hfile
  | cons file files ih =>
    obtain ⟨d₁, hfile, hfiles⟩ := putFiles_cons_iff.mp h
    obtain ⟨e₁, hfile', hfiles'⟩ := putFiles_cons_iff.mp h'
    have hkept := SameFolders.of_putFile hfile
    have hkept' := SameFolders.of_putFile hfile'
    refine ih (hkept.symm.trans (hfolders.trans hkept')) hfiles hfiles' ?_
    obtain ⟨k, hk, hnode, rfl⟩ := putFile_eq_ok_iff.mp hfile
    obtain ⟨k', hk', hnode', rfl⟩ := putFile_eq_ok_iff.mp hfile'
    cases (hfolders.locate hk).symm.trans hk'
    rw [node?_put (ne_nil_of_node? hnode), node?_put (ne_nil_of_node? hnode')]
    by_cases hlk : l = k
    · exact .inl (by rw [if_pos hlk, if_pos hlk])
    · rw [if_neg hlk, if_neg hlk]
      refine hl.imp_right fun ⟨other, hother, hlocate⟩ => ?_
      rcases List.mem_cons.mp hother with rfl | hother
      · cases hk.symm.trans hlocate
        exact absurd rfl hlk
      · exact hkept.touched ⟨other, hother, hlocate⟩

theorem node?_putFiles_of_not_touched (h : d.putFiles files = .ok d') (hl : ¬ d.Touched files l) :
    d'.node? l = d.node? l := by
  induction files generalizing d with
  | nil =>
    cases h
    rfl
  | cons file files ih =>
    obtain ⟨d₁, hfile, hfiles⟩ := putFiles_cons_iff.mp h
    have hkept := SameFolders.of_putFile hfile
    have hrest : ¬ d₁.Touched files l := by
      intro htouched
      obtain ⟨other, hother, hlocate⟩ := hkept.symm.touched htouched
      exact hl ⟨other, List.mem_cons_of_mem _ hother, hlocate⟩
    rw [ih hfiles hrest]
    obtain ⟨k, hk, hnode, rfl⟩ := putFile_eq_ok_iff.mp hfile
    rw [node?_put (ne_nil_of_node? hnode), if_neg]
    rintro rfl
    exact hl ⟨file, List.mem_cons_self, hk⟩

/-! ## Storing -/

/-- The second disk is what is left when the folders of a path are made on the first one and then
files are written. -/
def Stores (way : Path) (files : List (Path × List UInt8)) (d d' : Disk) : Prop :=
  ∃ made, d.ensureFolders way = (.ok (), made) ∧ made.putFiles files = .ok d'

/-- No location is that of a file in both lists. -/
def Apart (d : Disk) (files files' : List (Path × List UInt8)) : Prop :=
  ∀ l, d.Touched files l → ¬ d.Touched files' l

theorem Apart.symm (h : Apart d files files') : Apart d files' files :=
  fun l htouched' htouched => h l htouched htouched'

namespace Stores

/-- Behind the folders nothing else is made. -/
theorem of_isFolder (h : d.isFolder way = true) :
    Stores way files d d' ↔ d.putFiles files = .ok d' := by
  rw [Stores, ensureFolders_of_isFolder .sound h]
  simp

theorem isFolder (h : Stores way files d d') : d'.isFolder way = true := by
  obtain ⟨made, hmade, hfiles⟩ := h
  exact (SameFolders.of_putFiles hfiles).isFolder ((ensureFolders_grows hmade).2 rfl)

/-- Files that lie apart may be stored in either order. -/
theorem swappable (hapart : ∀ d, Apart d files files') :
    Swappable (Stores way files) (Stores way files') := by
  intro d d' d'' h h'
  obtain ⟨made, hmade, hfiles⟩ := h
  have hkept := SameFolders.of_putFiles hfiles
  have hway : made.isFolder way = true := (ensureFolders_grows hmade).2 rfl
  rw [of_isFolder (hkept.isFolder hway)] at h'
  have hkept' := SameFolders.of_putFiles h'
  have hfree := exists_putFiles_iff.mp ⟨d', hfiles⟩
  have hfree' := exists_putFiles_iff.mp ⟨d'', h'⟩
  obtain ⟨e, hfirst⟩ := exists_putFiles_iff.mpr fun file hfile => hkept.symm.free (hfree' file hfile)
  have hother := SameFolders.of_putFiles hfirst
  obtain ⟨e', hsecond⟩ := exists_putFiles_iff.mpr fun file hfile => hother.free (hfree file hfile)
  refine ⟨e, e', ⟨made, hmade, hfirst⟩, (of_isFolder (hother.isFolder hway)).mpr hsecond, ?_⟩
  have hfolders := (hkept.trans hkept').symm.trans (hother.trans (SameFolders.of_putFiles hsecond))
  refine ⟨hfolders.here, fun l => ?_⟩
  by_cases hl : made.Touched files l
  · -- The location is one of the first files: the others leave it alone in both orders.
    have hnot : ¬ d'.Touched files' l := fun htouched =>
      hapart d'' l ((hkept.trans hkept').touched hl) (hkept'.touched htouched)
    rw [node?_putFiles_of_not_touched h' hnot]
    exact putFiles_congr hother hfiles hsecond (.inr hl)
  · have hnot : ¬ e.Touched files l := fun htouched => hl (hother.symm.touched htouched)
    rw [node?_putFiles_of_not_touched hsecond hnot]
    exact (putFiles_congr hkept hfirst h'
      (.inl (node?_putFiles_of_not_touched hfiles hl).symm)).symm

/-- Storing files once more changes nothing. -/
theorem repeatable : Repeatable (Stores way files) := by
  intro d d' h
  have hway := h.isFolder
  obtain ⟨made, -, hfiles⟩ := h
  have hkept := SameFolders.of_putFiles hfiles
  have hfree := exists_putFiles_iff.mp ⟨d', hfiles⟩
  obtain ⟨d'', hagain⟩ := exists_putFiles_iff.mpr fun file hfile => hkept.free (hfree file hfile)
  refine ⟨d'', (of_isFolder hway).mpr hagain, (SameFolders.of_putFiles hagain).here, fun l => ?_⟩
  by_cases hl : made.Touched files l
  · exact putFiles_congr hkept hfiles hagain (.inr hl)
  · exact (node?_putFiles_of_not_touched hagain fun htouched =>
      hl (hkept.symm.touched htouched)).symm

end Stores

/-! ## Files that lie apart -/

section

open BlockAuthoring.Path (IsEntryName)

variable {folder : Path} {name name' : String} {bytes' : List UInt8}

/-- Files of different names in one folder lie apart. -/
theorem apart_of_ne (hname : IsEntryName name) (hname' : IsEntryName name') (hne : name ≠ name') :
    Apart d [(folder.join name, bytes)] [(folder.join name', bytes')] := by
  rintro l ⟨_, hfile, hl⟩ ⟨_, hfile', hl'⟩
  rw [List.mem_singleton.mp hfile] at hl
  rw [List.mem_singleton.mp hfile'] at hl'
  obtain ⟨k, -, rfl⟩ := locate_inside hname hl
  obtain ⟨k', -, hsame⟩ := locate_inside hname' hl'
  exact hne (by simpa using (List.append_inj' hsame rfl).2)

/-- A file in a folder and files beside the folder lie apart. -/
theorem apart_inside {inner : String} (hinner : IsEntryName inner) (hname : IsEntryName name)
    (hfiles : ∀ file ∈ files, ∃ name', IsEntryName name' ∧ file.1 = folder.join name') :
    Apart d [((folder.join inner).join name, bytes)] files := by
  rintro l ⟨_, hfile, hl⟩ ⟨file, hbeside, hl'⟩
  rw [List.mem_singleton.mp hfile] at hl
  obtain ⟨name', hname', hplace⟩ := hfiles file hbeside
  rw [hplace] at hl'
  obtain ⟨k, hk, rfl⟩ := locate_inside hname hl
  obtain ⟨k', hk', rfl⟩ := locate_inside hinner hk
  obtain ⟨k'', hk'', hsame⟩ := locate_inside hname' hl'
  cases hk'.symm.trans hk''
  -- One of them lies a folder deeper.
  simpa using congrArg List.length hsame

end

end BlockAuthoring.Disk
