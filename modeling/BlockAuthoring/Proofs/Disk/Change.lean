import BlockAuthoring.Disk.Tree
import BlockAuthoring.Proofs.Association
import BlockAuthoring.Proofs.Collecting
import BlockAuthoring.Proofs.Disk.Path
import BlockAuthoring.Proofs.Text.Utf8

/-!
# Changes of a disk

Writing files and making folders only adds to a disk: what was a folder stays one, and what was a
file stays a file. So every path that led somewhere leads there still, and what was written last is
what is read.
-/

namespace BlockAuthoring.Disk

variable {d d' d'' : Disk} {p : Path} {l : Location}

/-! ## Locations -/

theorem here_put (d : Disk) (l : Location) (n : Node) : (d.put l n).here = d.here := by
  unfold put
  split <;> rfl

/-- Behind a change at one location, the others hold what they held. -/
theorem node?_put {n : Node} (hl : l ≠ []) (k : Location) :
    (d.put l n).node? k = if k = l then some n else d.node? k := by
  cases k with
  | nil =>
    rw [if_neg (Ne.symm hl)]
    rfl
  | cons name k =>
    have hset := lookup_set d.entries l (name :: k) n
    simp only [beq_iff_eq] at hset
    show (d.put l n).entries.lookup (name :: k) = if _ then _ else d.entries.lookup (name :: k)
    rw [← hset, put]
    split <;> rfl

/-- Names are followed one after another. -/
theorem follow_append (d : Disk) (l : Location) (names more : List String) :
    d.follow l (names ++ more) = d.follow l names >>= fun k => d.follow k more := by
  induction names generalizing l with
  | nil => rfl
  | cons name names ih =>
    rw [List.cons_append, follow, follow]
    split
    · exact ih _
    · rfl
    · rfl

/-- A name is followed from where the path in front of it leads to. -/
theorem locate_join {name : String} (hname : Path.IsFileName name) :
    d.locate (p.join name) = d.locate p >>= fun k => d.follow k [name] := by
  rw [Path.join_of_isFileName p hname, locate, follow_append]
  rfl

/-- Only behind a folder a name leads anywhere. -/
theorem isFolder_of_locate_join {name : String} (hname : Path.IsFileName name)
    (h : d.locate (p.join name) = .ok l) : d.isFolder p = true := by
  rw [locate_join hname] at h
  obtain ⟨k, hk, hfollow⟩ := bind_eq_ok_iff.mp h
  rw [follow] at hfollow
  cases hnode : d.node? k with
  | none =>
    rw [hnode] at hfollow
    cases hfollow
  | some n =>
    cases n with
    | file bytes =>
      rw [hnode] at hfollow
      cases hfollow
    | folder => simp [isFolder, find?, hk, hnode]

/-- What a folder lies in is a folder. -/
theorem isFolder_of_isFolder_join {name : String} (hname : Path.IsFileName name)
    (h : d.isFolder (p.join name) = true) : d.isFolder p = true := by
  rw [isFolder, beq_iff_eq, find?] at h
  cases hlocate : d.locate (p.join name) with
  | error fault => simp [hlocate] at h
  | ok l => exact isFolder_of_locate_join hname hlocate

/-- Paths to the same location lead to the same things inside. -/
theorem find?_join_congr {q : Path} (h : d.locate p = d.locate q) {name : String}
    (hname : Path.IsFileName name) : d.find? (p.join name) = d.find? (q.join name) := by
  rw [find?, find?, locate_join hname, locate_join hname, h]

theorem isFile_join_congr {q : Path} (h : d.locate p = d.locate q) {name : String}
    (hname : Path.IsFileName name) : d.isFile (p.join name) = d.isFile (q.join name) := by
  rw [isFile, isFile, find?_join_congr h hname]

theorem isFolder_join_congr {q : Path} (h : d.locate p = d.locate q) {name : String}
    (hname : Path.IsFileName name) : d.isFolder (p.join name) = d.isFolder (q.join name) := by
  rw [isFolder, isFolder, find?_join_congr h hname]

/-! ## Growing -/

/-- Folders stay folders and files stay files, though perhaps with other contents. -/
structure Grows (d d' : Disk) : Prop where
  here : d'.here = d.here
  folder : ∀ l, d.node? l = some .folder → d'.node? l = some .folder
  file : ∀ l bytes, d.node? l = some (.file bytes) → ∃ bytes', d'.node? l = some (.file bytes')

namespace Grows

theorem refl (d : Disk) : Grows d d := ⟨rfl, fun _ h => h, fun _ bytes h => ⟨bytes, h⟩⟩

theorem trans (h : Grows d d') (h' : Grows d' d'') : Grows d d'' where
  here := h'.here.trans h.here
  folder l hl := h'.folder l (h.folder l hl)
  file l bytes hl := by
    obtain ⟨bytes', hl'⟩ := h.file l bytes hl
    exact h'.file l bytes' hl'

theorem follow (h : Grows d d') {names : List String} {k : Location}
    (hk : d.follow l names = .ok k) : d'.follow l names = .ok k := by
  induction names generalizing l with
  | nil => exact hk
  | cons name names ih =>
    rw [Disk.follow] at hk ⊢
    cases hl : d.node? l with
    | none => rw [hl] at hk; cases hk
    | some n =>
      rw [hl] at hk
      cases n with
      | file bytes => cases hk
      | folder =>
        rw [h.folder l hl]
        exact ih hk

/-- A path that leads somewhere leads there still. -/
theorem locate (h : Grows d d') (hl : d.locate p = .ok l) : d'.locate p = .ok l := by
  rw [Disk.locate] at hl ⊢
  rw [h.here]
  exact h.follow hl

theorem find? (h : Grows d d') (hp : d.find? p = some .folder) : d'.find? p = some .folder := by
  cases hl : d.locate p with
  | error fault => simp [Disk.find?, hl] at hp
  | ok l =>
    simp only [Disk.find?, hl] at hp
    simp only [Disk.find?, h.locate hl, h.folder l hp]

theorem isFolder (h : Grows d d') (hp : d.isFolder p = true) : d'.isFolder p = true := by
  rw [Disk.isFolder, beq_iff_eq] at hp ⊢
  exact h.find? hp

theorem put {n : Node} (hl : l ≠ []) (hfolder : d.node? l ≠ some .folder)
    (hfile : ∀ bytes, d.node? l = some (.file bytes) → ∃ bytes', n = .file bytes') :
    Grows d (d.put l n) where
  here := here_put d l n
  folder k hk := by
    rw [node?_put hl, if_neg (by rintro rfl; exact hfolder hk)]
    exact hk
  file k bytes hk := by
    rw [node?_put hl]
    split
    · rename_i heq
      obtain ⟨bytes', rfl⟩ := hfile bytes (heq ▸ hk)
      exact ⟨bytes', rfl⟩
    · exact ⟨bytes, hk⟩

end Grows

theorem isFile_iff : d.isFile p = true ↔ ∃ bytes, d.find? p = some (.file bytes) := by
  unfold isFile
  split
  · rename_i bytes hfind
    simp [hfind]
  · rename_i hnot
    simp only [Bool.false_eq_true, false_iff, not_exists]
    exact hnot

/-- A file is what can be read. -/
theorem isFile_iff_read : d.isFile p = true ↔ ∃ bytes, d.read p = .ok bytes := by
  unfold isFile find? read
  cases d.locate p with
  | error fault => simp
  | ok l =>
    dsimp only
    cases d.node? l with
    | none => simp
    | some n => cases n <;> simp

theorem find?_eq_file_iff {bytes : List UInt8} :
    d.find? p = some (.file bytes) ↔ d.read p = .ok bytes := by
  unfold find? read
  cases d.locate p with
  | error fault => simp
  | ok l =>
    dsimp only
    cases d.node? l with
    | none => simp
    | some n => cases n <;> simp

theorem exists_locate_of_isFile (h : d.isFile p = true) : ∃ l, d.locate p = .ok l := by
  obtain ⟨bytes, hfind⟩ := isFile_iff.mp h
  rw [find?] at hfind
  cases hl : d.locate p with
  | error fault =>
    rw [hl] at hfind
    cases hfind
  | ok l => exact ⟨l, rfl⟩

theorem Grows.isFile (h : Grows d d') (hp : d.isFile p = true) : d'.isFile p = true := by
  rw [isFile_iff] at hp ⊢
  obtain ⟨bytes, hfind⟩ := hp
  cases hl : d.locate p with
  | error fault => simp [Disk.find?, hl] at hfind
  | ok l =>
    simp only [Disk.find?, hl] at hfind
    obtain ⟨bytes', hl'⟩ := h.file l bytes hfind
    exact ⟨bytes', by simp only [Disk.find?, h.locate hl, hl']⟩

/-! ## Writing -/

theorem ne_nil_of_node? (h : d.node? l ≠ some .folder) : l ≠ [] := by
  rintro rfl
  exact h rfl

/-- What is written is a file from then on, and it is read back. -/
theorem putFile_eq_ok {bytes : List UInt8} (h : d.putFile p bytes = .ok d') :
    Grows d d' ∧ d'.read p = .ok bytes ∧ d'.isFile p = true := by
  unfold putFile at h
  cases hl : d.locate p with
  | error fault => rw [hl] at h; cases h
  | ok l =>
    rw [hl] at h
    dsimp only at h
    split at h
    · cases h
    · rename_i hfolder
      cases h
      have hne := ne_nil_of_node? hfolder
      have hgrows : Grows d (d.put l (.file bytes)) :=
        .put hne hfolder fun _ _ => ⟨bytes, rfl⟩
      have hnode : (d.put l (.file bytes)).node? l = some (.file bytes) := by
        rw [node?_put hne, if_pos rfl]
      refine ⟨hgrows, ?_, isFile_iff.mpr ⟨bytes, ?_⟩⟩
      · rw [read, hgrows.locate hl]
        simp only [hnode]
      · simp only [find?, hgrows.locate hl, hnode]

/-- Writing puts the whole file there, or nothing, or some first bytes of it where the device
stops. -/
theorem write_cases {bytes : List UInt8} {device : Device} {result : Except DiskError Unit}
    (h : d.write p bytes device = (result, d')) :
    (result = .ok () ∧ d.putFile p bytes = .ok d')
      ∨ (∃ e, result = .error e ∧ d' = d)
      ∨ ∃ fault arrived, result = .error ⟨.brokenOff fault, p⟩ ∧ arrived <+: bytes
        ∧ d.putFile p arrived = .ok d' := by
  unfold write at h
  cases hopening : device.opening d p with
  | some fault =>
    rw [hopening] at h
    cases h
    exact .inr (.inl ⟨_, rfl, rfl⟩)
  | none =>
    rw [hopening] at h
    cases hfilling : device.filling d p bytes with
    | none =>
      rw [hfilling] at h
      dsimp only at h
      split at h <;> cases h
      · exact .inr (.inl ⟨_, rfl, rfl⟩)
      · rename_i hput
        exact .inl ⟨rfl, hput⟩
    | some stop =>
      obtain ⟨count, fault⟩ := stop
      rw [hfilling] at h
      dsimp only at h
      split at h <;> cases h
      · exact .inr (.inl ⟨_, rfl, rfl⟩)
      · rename_i hput
        exact .inr (.inr ⟨fault, _, rfl, List.take_prefix count bytes, hput⟩)

/-- A sound device takes every file that can be put there. -/
theorem write_sound (d : Disk) (p : Path) (bytes : List UInt8) :
    d.write p bytes = match d.putFile p bytes with
      | .error e => (.error e, d)
      | .ok d' => (.ok (), d') := rfl

theorem putFile_of_write {bytes : List UInt8} {device : Device}
    (h : d.write p bytes device = (.ok (), d')) : d.putFile p bytes = .ok d' := by
  rcases write_cases h with ⟨-, hput⟩ | ⟨_, hnot, -⟩ | ⟨_, _, hnot, -⟩
  · exact hput
  · cases hnot
  · cases hnot

/-! ## Making folders -/

/-- A folder is made where nothing was. -/
theorem makeFolder_eq_ok {device : Device} (h : d.makeFolder p device = .ok d') :
    ∃ l, d.locate p = .ok l ∧ d.node? l = none ∧ d' = d.put l .folder := by
  unfold makeFolder at h
  split at h
  · cases h
  · cases hl : d.locate p with
    | error fault => rw [hl] at h; cases h
    | ok l =>
      rw [hl] at h
      dsimp only at h
      split at h <;> cases h
      rename_i hnone
      exact ⟨l, rfl, hnone, rfl⟩

/-- A folder that is there is not made, else it is made where nothing is. -/
theorem ensureFolder_cases {device : Device} (h : d.ensureFolder p device = .ok d') :
    (d' = d ∧ d.isFolder p = true)
      ∨ ∃ l, d.locate p = .ok l ∧ d.node? l = none ∧ d' = d.put l .folder := by
  unfold ensureFolder at h
  split at h
  · rename_i hmade
    cases h
    exact .inr (makeFolder_eq_ok hmade)
  · split at h <;> cases h
    rename_i hthere
    exact .inl ⟨rfl, hthere.2⟩

theorem ensureFolder_eq_ok {device : Device} (h : d.ensureFolder p device = .ok d') :
    Grows d d' ∧ d'.isFolder p = true := by
  rcases ensureFolder_cases h with ⟨rfl, hthere⟩ | ⟨l, hl, hnone, rfl⟩
  · exact ⟨.refl d', hthere⟩
  · have hne : l ≠ [] := ne_nil_of_node? (by rw [hnone]; nofun)
    have hgrows : Grows d (d.put l .folder) :=
      .put hne (by rw [hnone]; nofun) fun bytes hbytes => by rw [hnone] at hbytes; cases hbytes
    refine ⟨hgrows, ?_⟩
    simp only [isFolder, find?, hgrows.locate hl, node?_put hne, if_pos, beq_self_eq_true]

/-- Whatever comes of it, making folders only adds to a disk; and if nothing is in the way, the
folder is there. -/
theorem ensureFoldersUpTo_grows {device : Device} {count : Nat} {result : Except DiskError Unit}
    (h : d.ensureFoldersUpTo p device count = (result, d')) :
    Grows d d' ∧ (result = .ok () → d'.isFolder { p with names := p.names.take count } = true) := by
  induction count generalizing result d' with
  | zero =>
    rw [ensureFoldersUpTo] at h
    split at h <;> cases h
    · rename_i hmade
      exact ⟨(ensureFolder_eq_ok hmade).1, fun _ => (ensureFolder_eq_ok hmade).2⟩
    · exact ⟨.refl d, fun hok => by cases hok⟩
  | succ count ih =>
    rw [ensureFoldersUpTo] at h
    split at h
    · rename_i hmade
      cases h
      exact ⟨(ensureFolder_eq_ok hmade).1, fun _ => (ensureFolder_eq_ok hmade).2⟩
    · split at h
      · split at h
        · rename_i houter
          cases h
          exact ⟨(ih houter).1, fun hok => by cases hok⟩
        · rename_i houter
          split at h <;> cases h
          · rename_i hmade
            exact ⟨(ih houter).1.trans (ensureFolder_eq_ok hmade).1,
              fun _ => (ensureFolder_eq_ok hmade).2⟩
          · exact ⟨(ih houter).1, fun hok => by cases hok⟩
      · cases h
        exact ⟨.refl d, fun hok => by cases hok⟩

theorem ensureFolders_grows {device : Device} {result : Except DiskError Unit}
    (h : d.ensureFolders p device = (result, d')) :
    Grows d d' ∧ (result = .ok () → d'.isFolder p = true) := by
  have hspec := ensureFoldersUpTo_grows h
  rwa [List.take_length] at hspec

end BlockAuthoring.Disk
