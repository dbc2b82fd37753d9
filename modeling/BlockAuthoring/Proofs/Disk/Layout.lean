import BlockAuthoring.Proofs.Disk.Change

/-!
# Disks of one layout

Two disks may have the same files and folders and differ only in what the files hold. Paths lead to
the same places on both, and writing and making folders succeed or fail alike: for none of this the
content of a file matters.
-/

namespace BlockAuthoring

/-- Both locations hold nothing, a folder, or some file. -/
inductive Node.Alike : Option Node → Option Node → Prop where
  | nothing : Alike none none
  | folder : Alike (some .folder) (some .folder)
  | file (bytes bytes' : List UInt8) : Alike (some (.file bytes)) (some (.file bytes'))

theorem Node.Alike.refl (n : Option Node) : Alike n n := by
  rcases n with _ | _ | bytes
  · exact .nothing
  · exact .folder
  · exact .file bytes bytes

namespace Disk

/-- The disks have the same files and folders; only what the files hold may differ. -/
structure SameLayout (d d' : Disk) : Prop where
  here : d.here = d'.here
  nodes : ∀ l, Node.Alike (d.node? l) (d'.node? l)

/-- Both changes fail in the same way, or give disks of one layout. -/
inductive ChangesAlike : Except DiskError Disk → Except DiskError Disk → Prop where
  | changed {d d' : Disk} (layout : SameLayout d d') : ChangesAlike (.ok d) (.ok d')
  | failed (e : DiskError) : ChangesAlike (.error e) (.error e)

namespace SameLayout

variable {d d' : Disk} {p : Path} {l : Location}

/-! ## Looking -/

theorem node?_eq_folder_iff (h : SameLayout d d') :
    d.node? l = some .folder ↔ d'.node? l = some .folder := by
  have hl := h.nodes l
  generalize d.node? l = n at hl ⊢
  generalize d'.node? l = n' at hl ⊢
  cases hl <;> simp

theorem follow_eq (h : SameLayout d d') (l : Location) (names : List String) :
    d.follow l names = d'.follow l names := by
  induction names generalizing l with
  | nil => rfl
  | cons name names ih =>
    have hl := h.nodes l
    rw [follow, follow]
    generalize d.node? l = n at hl ⊢
    generalize d'.node? l = n' at hl ⊢
    cases hl with
    | nothing => rfl
    | folder => exact ih _
    | file bytes bytes' => rfl

theorem locate_eq (h : SameLayout d d') (p : Path) : d.locate p = d'.locate p := by
  rw [locate, locate, h.here, h.follow_eq]

theorem find?_alike (h : SameLayout d d') (p : Path) : Node.Alike (d.find? p) (d'.find? p) := by
  rw [find?, find?, h.locate_eq]
  cases d'.locate p with
  | ok l => exact h.nodes l
  | error fault => exact .nothing

theorem isFolder_eq (h : SameLayout d d') (p : Path) : d.isFolder p = d'.isFolder p := by
  have hp := h.find?_alike p
  rw [isFolder, isFolder]
  generalize d.find? p = n at hp ⊢
  generalize d'.find? p = n' at hp ⊢
  cases hp <;> rfl

theorem isFile_eq (h : SameLayout d d') (p : Path) : d.isFile p = d'.isFile p := by
  have hp := h.find?_alike p
  rw [isFile, isFile]
  generalize d.find? p = n at hp ⊢
  generalize d'.find? p = n' at hp ⊢
  cases hp <;> rfl

/-! ## Changing -/

theorem put (h : SameLayout d d') (hl : l ≠ []) (n : Node) : SameLayout (d.put l n) (d'.put l n) where
  here := by rw [here_put, here_put, h.here]
  nodes k := by
    rw [node?_put hl, node?_put hl]
    split
    · exact .refl _
    · exact h.nodes k

/-- Another content of a file is no other layout. -/
theorem put_file {bytes : List UInt8} (hl : d.node? l = some (.file bytes))
    (bytes' : List UInt8) : SameLayout d (d.put l (.file bytes')) where
  here := (here_put d l _).symm
  nodes k := by
    have hne : l ≠ [] := ne_nil_of_node? (by rw [hl]; nofun)
    rw [node?_put hne]
    split
    · rename_i hk
      rw [hk, hl]
      exact .file bytes bytes'
    · exact .refl _

theorem putFile (h : SameLayout d d') (p : Path) (bytes : List UInt8) :
    ChangesAlike (d.putFile p bytes) (d'.putFile p bytes) := by
  rw [Disk.putFile, Disk.putFile, h.locate_eq]
  cases d'.locate p with
  | error fault => exact .failed _
  | ok l =>
    have hl := h.nodes l
    have hne : d.node? l ≠ some .folder → l ≠ [] := ne_nil_of_node?
    dsimp only
    generalize d.node? l = n at hl hne ⊢
    generalize d'.node? l = n' at hl ⊢
    cases hl with
    | nothing => exact .changed (h.put (hne nofun) _)
    | folder => exact .failed _
    | file => exact .changed (h.put (hne nofun) _)

theorem write (h : SameLayout d d') (p : Path) (bytes : List UInt8) :
    (d.write p bytes).1 = (d'.write p bytes).1
      ∧ SameLayout (d.write p bytes).2 (d'.write p bytes).2 := by
  have hput := h.putFile p bytes
  rw [write_sound, write_sound]
  generalize d.putFile p bytes = result at hput ⊢
  generalize d'.putFile p bytes = result' at hput ⊢
  cases hput with
  | changed h' => exact ⟨rfl, h'⟩
  | failed e => exact ⟨rfl, h⟩

theorem makeFolder (h : SameLayout d d') (p : Path) :
    ChangesAlike (d.makeFolder p) (d'.makeFolder p) := by
  rw [Disk.makeFolder, Disk.makeFolder, h.locate_eq]
  cases d'.locate p with
  | error fault => exact .failed _
  | ok l =>
    have hl := h.nodes l
    have hne : d.node? l ≠ some .folder → l ≠ [] := ne_nil_of_node?
    dsimp only
    generalize d.node? l = n at hl hne ⊢
    generalize d'.node? l = n' at hl ⊢
    cases hl with
    | nothing => exact .changed (h.put (hne nofun) _)
    | folder => exact .failed _
    | file => exact .failed _

theorem ensureFolder (h : SameLayout d d') (p : Path) :
    ChangesAlike (d.ensureFolder p) (d'.ensureFolder p) := by
  have hmade := h.makeFolder p
  rw [Disk.ensureFolder, Disk.ensureFolder, h.isFolder_eq p]
  generalize d.makeFolder p = result at hmade ⊢
  generalize d'.makeFolder p = result' at hmade ⊢
  cases hmade with
  | changed h => exact .changed h
  | failed e =>
    dsimp only
    split
    · exact .changed h
    · exact .failed e

/-- Making folders one in the other goes equally far on both disks. -/
theorem ensureFoldersUpTo (h : SameLayout d d') (p : Path) (count : Nat) :
    (d.ensureFoldersUpTo p .sound count).1 = (d'.ensureFoldersUpTo p .sound count).1
      ∧ SameLayout (d.ensureFoldersUpTo p .sound count).2
        (d'.ensureFoldersUpTo p .sound count).2 := by
  induction count with
  | zero =>
    have hmade := h.ensureFolder { p with names := [] }
    rw [Disk.ensureFoldersUpTo, Disk.ensureFoldersUpTo]
    generalize d.ensureFolder _ = result at hmade ⊢
    generalize d'.ensureFolder _ = result' at hmade ⊢
    cases hmade with
    | changed h' => exact ⟨rfl, h'⟩
    | failed e => exact ⟨rfl, h⟩
  | succ count ih =>
    have hmade := h.ensureFolder { p with names := p.names.take (count + 1) }
    rw [Disk.ensureFoldersUpTo, Disk.ensureFoldersUpTo]
    generalize d.ensureFolder _ = result at hmade ⊢
    generalize d'.ensureFolder _ = result' at hmade ⊢
    cases hmade with
    | changed h' => exact ⟨rfl, h'⟩
    | failed e =>
      dsimp only
      split
      · -- What the outer folders leave is of one layout too, so the last folder is made alike.
        generalize d.ensureFoldersUpTo p .sound count = outer at ih ⊢
        generalize d'.ensureFoldersUpTo p .sound count = outer' at ih ⊢
        obtain ⟨made, d₁⟩ := outer
        obtain ⟨made', d₁'⟩ := outer'
        obtain ⟨rfl, h₁⟩ := ih
        cases made with
        | error e' => exact ⟨rfl, h₁⟩
        | ok _ =>
          have hmade := h₁.ensureFolder { p with names := p.names.take (count + 1) }
          dsimp only
          generalize d₁.ensureFolder _ = result at hmade ⊢
          generalize d₁'.ensureFolder _ = result' at hmade ⊢
          cases hmade with
          | changed h₂ => exact ⟨rfl, h₂⟩
          | failed e' => exact ⟨rfl, h₁⟩
      · exact ⟨rfl, h⟩

end SameLayout

end Disk

end BlockAuthoring
