import BlockAuthoring.Proofs.Disk.Change
import Mathlib.Data.List.Nodup

/-!
# What lies in a folder

On a disk that is a tree, the names in a folder are those that lead somewhere from it, each of them
once.
-/

namespace BlockAuthoring

/-- The text names something in a folder, and does not lead out of it. -/
def Path.IsEntryName (name : String) : Prop := IsFileName name ∧ name ≠ ".."

/-- With an ending behind it, every text without a slash names something in a folder. -/
theorem Path.isEntryName_append {name ending : String} (hname : '/' ∉ name.toList)
    (hlength : 2 < ending.toList.length) (hslash : '/' ∉ ending.toList) :
    IsEntryName (name ++ ending) := by
  have hne (other : String) (hother : other.toList.length ≤ 2) : name ++ ending ≠ other := by
    intro heq
    have hlengths := congrArg (fun s => s.toList.length) heq
    simp only [String.toList_append, List.length_append] at hlengths
    omega
  refine ⟨⟨hne "" (by decide), hne "." (by decide), ?_⟩, hne ".." (by decide)⟩
  rw [String.toList_append, List.mem_append, not_or]
  exact ⟨hname, hslash⟩

/-- The disk is a tree: a location holds one thing, and every step to it has a name. -/
structure Disk.IsTree (d : Disk) : Prop where
  distinct : (d.entries.map (·.1)).Nodup
  named : ∀ e ∈ d.entries, ∀ name ∈ e.1, Path.IsEntryName name

namespace Disk

open BlockAuthoring.Path (IsEntryName)

variable {d : Disk} {l : Location} {p : Path} {name : String}

/-! ## Names -/

/-- The last name of a place, if it lies in a folder. -/
def nameIn? (l place : Location) : Option String :=
  match place.getLast? with
  | some name => if place.dropLast = l then some name else none
  | none => none

theorem nameIn?_eq_some_iff {place : Location} :
    nameIn? l place = some name ↔ place = l ++ [name] := by
  rcases List.eq_nil_or_concat place with rfl | ⟨before, last, rfl⟩
  · simp [nameIn?]
  · rw [nameIn?, List.concat_eq_append, List.getLast?_concat, List.dropLast_concat]
    dsimp only
    split
    · rename_i hbefore
      simp [hbefore]
    · rename_i hbefore
      simp only [reduceCtorEq, false_iff]
      exact fun heq => hbefore (List.append_inj_left' heq rfl)

theorem namesAt_eq (d : Disk) (l : Location) :
    d.namesAt l = (d.entries.map (·.1)).filterMap (nameIn? l) := by
  rw [List.filterMap_map]
  rfl

theorem node?_append_name (d : Disk) (l : Location) (name : String) :
    d.node? (l ++ [name]) = d.entries.lookup (l ++ [name]) := by
  cases l <;> rfl

/-- The names in a folder are those that lead somewhere. -/
theorem mem_namesAt_iff : name ∈ d.namesAt l ↔ (d.node? (l ++ [name])).isSome := by
  simp only [node?_append_name, isSome_lookup_iff, namesAt_eq, List.mem_filterMap,
    nameIn?_eq_some_iff, exists_eq_right]

namespace IsTree

theorem nodup_namesAt (h : d.IsTree) (l : Location) : (d.namesAt l).Nodup := by
  rw [namesAt_eq]
  refine h.distinct.filterMap fun place place' name hname hname' => ?_
  rw [nameIn?_eq_some_iff.mp hname, nameIn?_eq_some_iff.mp hname']

/-- What has a place on the disk has a name. -/
theorem isEntryName (h : d.IsTree) (hname : (d.node? (l ++ [name])).isSome) :
    IsEntryName name := by
  rw [node?_append_name, isSome_lookup_iff] at hname
  obtain ⟨e, he, hplace⟩ := List.mem_map.mp hname
  exact h.named e he name (by simp [hplace])

end IsTree

/-! ## Paths into a folder -/

theorem locate_entry (hp : d.locate p = .ok l) (hl : d.node? l = some .folder)
    (hname : IsEntryName name) : d.locate (p.join name) = .ok (l ++ [name]) := by
  rw [locate_join hname.1, hp]
  simp only [bind, Except.bind, follow, hl, if_neg hname.2]

/-- A path into a folder leads to what lies there. -/
theorem find?_entry (hp : d.locate p = .ok l) (hl : d.node? l = some .folder)
    (hname : IsEntryName name) : d.find? (p.join name) = d.node? (l ++ [name]) := by
  rw [find?, locate_entry hp hl hname]

theorem read_entry (hp : d.locate p = .ok l) {bytes : List UInt8}
    (hl : d.node? l = some (.file bytes)) : d.read p = .ok bytes := by
  rw [read, hp]
  simp only [hl]

end Disk

end BlockAuthoring
