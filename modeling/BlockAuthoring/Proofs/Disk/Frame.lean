import BlockAuthoring.Proofs.Disk.Folder

/-!
# What writing leaves alone

Making folders along a path changes nothing but locations on the way, where nothing was before, and
writing a file changes nothing but the location of the file. So whatever is written, all else on the
disk is what it was.
-/

namespace BlockAuthoring

/-- The last name of a path is the one that was put behind it. -/
theorem Path.parent_join (p : Path) {name : String} (h : Path.IsFileName name) :
    (p.join name).parent = p := by
  rw [Path.join_of_isFileName p h, Path.parent, List.dropLast_concat]

namespace Disk

open BlockAuthoring.Path (IsEntryName)

variable {d d' d'' : Disk} {p way : Path} {l : Location} {files files' : List (Path × List UInt8)}

/-- Some first names of a path lead to the location: it is the one the path leads to, or one that
the path leads through. -/
def OnWay (d : Disk) (way : Path) (l : Location) : Prop :=
  ∃ names, names <+: way.names ∧ d.locate { way with names } = .ok l

/-- The second disk is the first one with new folders on the way along a path and with files
written. All else is what it was. -/
structure Writes (way : Path) (files : List (Path × List UInt8)) (d d' : Disk) : Prop where
  grows : Grows d d'
  others : ∀ l, d'.node? l = d.node? l
    ∨ (d.node? l = none ∧ d'.node? l = some .folder ∧ d'.OnWay way l)
    ∨ ∃ file ∈ files, d'.locate file.1 = .ok l
  written : ∀ file ∈ files, d'.read file.1 = .ok file.2

theorem OnWay.mono (hgrows : Grows d d') (h : d.OnWay way l) : d'.OnWay way l := by
  obtain ⟨names, hprefix, hl⟩ := h
  exact ⟨names, hprefix, hgrows.locate hl⟩

/-- What is read lies where the path leads to. -/
theorem read_eq_ok_iff {bytes : List UInt8} :
    d.read p = .ok bytes ↔ ∃ l, d.locate p = .ok l ∧ d.node? l = some (.file bytes) := by
  unfold read
  cases d.locate p with
  | error fault => simp
  | ok l =>
    cases hl : d.node? l with
    | none => simp [hl]
    | some n => cases n <;> simp [hl]

theorem isFolder_iff :
    d.isFolder p = true ↔ ∃ l, d.locate p = .ok l ∧ d.node? l = some .folder := by
  unfold isFolder find?
  cases d.locate p with
  | error fault => simp
  | ok l => simp

/-- What lies on the way along a path lies on the way along every longer one. -/
theorem OnWay.longer {way' : Path} (hleading : way'.leading = way.leading)
    (hnames : way.names <+: way'.names) (h : d.OnWay way l) : d.OnWay way' l := by
  obtain ⟨names, hprefix, hl⟩ := h
  exact ⟨names, hprefix.trans hnames, by rw [hleading]; exact hl⟩

namespace Writes

theorem refl (way : Path) (d : Disk) : Writes way [] d d :=
  ⟨.refl d, fun _ => .inl rfl, by simp⟩

/-- What is written later does not touch what was written before, if it lies somewhere else. -/
theorem trans (h : Writes way files d d') (h' : Writes way files' d' d'')
    (hapart : ∀ file ∈ files, ∀ file' ∈ files', d''.locate file.1 ≠ d''.locate file'.1) :
    Writes way (files ++ files') d d'' where
  grows := h.grows.trans h'.grows
  others := by
    intro l
    rcases h'.others l with hsame | ⟨hnone, hfolder, hway⟩ | ⟨file, hfile, hl⟩
    · rcases h.others l with hsame' | ⟨hnone, hfolder, hway⟩ | ⟨file, hfile, hl⟩
      · exact .inl (hsame.trans hsame')
      · exact .inr (.inl ⟨hnone, hsame.trans hfolder, hway.mono h'.grows⟩)
      · exact .inr (.inr ⟨file, List.mem_append_left _ hfile, h'.grows.locate hl⟩)
    · rcases h.others l with hsame' | ⟨-, hfolder', -⟩ | ⟨file, hfile, hl⟩
      · exact .inr (.inl ⟨hsame'.symm.trans hnone, hfolder, hway⟩)
      · cases hnone.symm.trans hfolder'
      · obtain ⟨k, hk, hnode⟩ := read_eq_ok_iff.mp (h.written file hfile)
        cases hk.symm.trans hl
        cases hnone.symm.trans hnode
    · exact .inr (.inr ⟨file, List.mem_append_right _ hfile, hl⟩)
  written := by
    intro file hfile
    rcases List.mem_append.mp hfile with hfile | hfile
    · obtain ⟨l, hl, hnode⟩ := read_eq_ok_iff.mp (h.written file hfile)
      have hl' := h'.grows.locate hl
      refine read_eq_ok_iff.mpr ⟨l, hl', ?_⟩
      rcases h'.others l with hsame | ⟨hnone, -, -⟩ | ⟨file', hfile', hother⟩
      · exact hsame.trans hnode
      · cases hnone.symm.trans hnode
      · exact absurd (hl'.trans hother.symm) (hapart file hfile file' hfile')
    · exact h'.written file hfile

/-- Folders are made before files are written. -/
theorem behindFolders (h : Writes way [] d d') (h' : Writes way files d' d'') :
    Writes way files d d'' :=
  h.trans h' (by simp)

theorem longer {way' : Path} (hleading : way'.leading = way.leading)
    (hnames : way.names <+: way'.names) (h : Writes way files d d') : Writes way' files d d' where
  grows := h.grows
  others := fun l => (h.others l).imp_right <| .imp_left fun ⟨hnone, hfolder, hway⟩ =>
    ⟨hnone, hfolder, hway.longer hleading hnames⟩
  written := h.written

end Writes

/-! ## Files -/

theorem putFile_cases {bytes : List UInt8} (h : d.putFile p bytes = .ok d') :
    ∃ l, d.locate p = .ok l ∧ l ≠ [] ∧ d' = d.put l (.file bytes) := by
  unfold putFile at h
  cases hl : d.locate p with
  | error fault => rw [hl] at h; cases h
  | ok l =>
    rw [hl] at h
    dsimp only at h
    split at h
    · cases h
    · rename_i hfolder
      cases h
      exact ⟨l, rfl, ne_nil_of_node? hfolder, rfl⟩

theorem putFile_writes {bytes : List UInt8} (way : Path) (h : d.putFile p bytes = .ok d') :
    Writes way [(p, bytes)] d d' := by
  obtain ⟨hgrows, hread, -⟩ := putFile_eq_ok h
  refine ⟨hgrows, fun k => ?_, by simpa using hread⟩
  obtain ⟨l, hl, hne, rfl⟩ := putFile_cases h
  rw [node?_put hne]
  by_cases hk : k = l
  · subst hk
    exact .inr (.inr ⟨(p, bytes), List.mem_cons_self, hgrows.locate hl⟩)
  · rw [if_neg hk]
    exact .inl rfl

/-! ## Folders -/

/-- Only the location of the folder changes, and it is one on the way. -/
theorem ensureFolder_writes {device : Device} {names : List String} (hnames : names <+: way.names)
    (h : d.ensureFolder { way with names } device = .ok d') : Writes way [] d d' := by
  have hgrows := (ensureFolder_eq_ok h).1
  refine ⟨hgrows, fun k => ?_, by simp⟩
  rcases ensureFolder_cases h with ⟨rfl, -⟩ | ⟨l, hl, hnone, rfl⟩
  · exact .inl rfl
  · have hne : l ≠ [] := by
      rintro rfl
      cases hnone
    rw [node?_put hne]
    by_cases hk : k = l
    · subst hk
      exact .inr (.inl ⟨hnone, if_pos rfl, names, hnames, hgrows.locate hl⟩)
    · rw [if_neg hk]
      exact .inl rfl

/-- Whatever comes of it, making folders only makes folders on the way. -/
theorem ensureFoldersUpTo_writes {device : Device} {count : Nat} {result : Except DiskError Unit}
    (h : d.ensureFoldersUpTo way device count = (result, d')) : Writes way [] d d' := by
  induction count generalizing result d' with
  | zero =>
    rw [ensureFoldersUpTo] at h
    split at h <;> cases h
    · rename_i hmade
      exact ensureFolder_writes (List.nil_prefix) hmade
    · exact .refl way d
  | succ count ih =>
    have htake : way.names.take (count + 1) <+: way.names := List.take_prefix _ _
    rw [ensureFoldersUpTo] at h
    split at h
    · rename_i hmade
      cases h
      exact ensureFolder_writes htake hmade
    · split at h
      · split at h
        · rename_i houter
          cases h
          exact ih houter
        · rename_i houter
          split at h <;> cases h
          · rename_i hmade
            exact (ih houter).behindFolders (ensureFolder_writes htake hmade)
          · exact ih houter
      · cases h
        exact .refl way d

theorem ensureFolders_writes {device : Device} {result : Except DiskError Unit}
    (h : d.ensureFolders way device = (result, d')) : Writes way [] d d' :=
  ensureFoldersUpTo_writes h

/-- A folder that is there is left as it is. -/
theorem ensureFolders_of_isFolder (device : Device) (h : d.isFolder p = true) :
    d.ensureFolders p device = (.ok (), d) := by
  have hthere : d.ensureFolder p device = .ok d := by
    obtain ⟨l, hl, hnode⟩ := isFolder_iff.mp h
    obtain ⟨fault, hfault, hmade⟩ :
        ∃ fault, fault ≠ .notFound ∧ d.makeFolder p device = .error ⟨fault, p⟩ := by
      unfold makeFolder
      cases device.making d p with
      | some fault => exact ⟨.refused fault, by simp, rfl⟩
      | none =>
        rw [hl]
        dsimp only
        rw [hnode]
        exact ⟨.alreadyThere, by simp, rfl⟩
    simp [ensureFolder, hmade, hfault, h]
  obtain ⟨leading, names⟩ := p
  unfold ensureFolders
  cases hlength : names.length with
  | zero =>
    obtain rfl := List.length_eq_zero_iff.mp hlength
    simp only [ensureFoldersUpTo, hthere]
  | succ count =>
    have htake : names.take (count + 1) = names := List.take_of_length_le (by omega)
    simp only [ensureFoldersUpTo, htake, hthere]

/-! ## Files in one folder -/

/-- Where a name leads from a folder. -/
theorem locate_inside {name : String} (hname : IsEntryName name)
    (h : d.locate (p.join name) = .ok l) : ∃ k, d.locate p = .ok k ∧ l = k ++ [name] := by
  obtain ⟨k, hk, hfolder⟩ := isFolder_iff.mp (isFolder_of_locate_join hname.1 h)
  cases (locate_entry hk hfolder hname).symm.trans h
  exact ⟨k, hk, rfl⟩

/-- Files of different names in one folder lie at different locations. -/
theorem locate_ne_of_ne {name name' : String} (hname : IsEntryName name) (hne : name ≠ name')
    (hname' : IsEntryName name') (h : d.isFile (p.join name) = true) :
    d.locate (p.join name) ≠ d.locate (p.join name') := by
  intro heq
  obtain ⟨l, hl⟩ := exists_locate_of_isFile h
  obtain ⟨k, hk, rfl⟩ := locate_inside hname hl
  obtain ⟨k', hk', hsame⟩ := locate_inside hname' (heq.symm.trans hl)
  exact hne (by simpa using (List.append_inj' hsame rfl).2)

end Disk

end BlockAuthoring
