import BlockAuthoring.Source.Listing
import Mathlib.Data.List.Sort
import Mathlib.Data.String.Basic

/-!
# Listings by name

Texts have one order, so a listing by name is determined by which names are in it.
-/

namespace BlockAuthoring.BlockInfo

/-- Names by code points. -/
def byName (names : List String) : List String := names.mergeSort fun a b => decide (a ≤ b)

theorem perm_byName (names : List String) : (byName names).Perm names :=
  List.mergeSort_perm names _

theorem pairwise_byName (names : List String) : (byName names).Pairwise (· ≤ ·) :=
  List.pairwise_mergeSort' (· ≤ ·) names

/-- The order does not depend on where the names stood before. -/
theorem byName_congr {names names' : List String} (h : names.Perm names') :
    byName names = byName names' :=
  List.Perm.eq_of_pairwise (fun _ _ _ _ => le_antisymm) (pairwise_byName names)
    (pairwise_byName names') (((perm_byName names).trans h).trans (perm_byName names').symm)

/-- The block has a text for a name. -/
def IsNamed (b : BlockInfo) : Prop := ∃ name, b.name = .string name

theorem isBefore_of_named {a b : BlockInfo} (ha : a.IsNamed) (hb : b.IsNamed) :
    (!isBefore b a) = decide (a.name.shown ≤ b.name.shown) := by
  obtain ⟨name, hname⟩ := ha
  obtain ⟨name', hname'⟩ := hb
  simp only [isBefore, hname, hname', Json.below?, Json.shown]
  rw [← decide_not, decide_eq_decide, not_lt]

/-- Texts have an order among each other. -/
theorem unordered?_eq_none {names : List Json} (h : ∀ v ∈ names, ∃ name, v = .string name)
    {earlier : List Json} (hearlier : ∀ v ∈ earlier, ∃ name, v = .string name) :
    unordered? earlier names = none := by
  induction names generalizing earlier with
  | nil => rfl
  | cons v names ih =>
    obtain ⟨hv, hnames⟩ := List.forall_mem_cons.mp h
    have hnone : earlier.findSome? (Json.clash? v) = none := by
      rw [List.findSome?_eq_none_iff]
      intro v' hv'
      obtain ⟨name, rfl⟩ := hv
      obtain ⟨name', rfl⟩ := hearlier v' hv'
      rfl
    rw [unordered?, hnone]
    exact ih hnames (List.forall_mem_cons.mpr ⟨hv, hearlier⟩)

/-- Among entries with names the order is that of texts. -/
theorem sortByName_eq_mergeSort {entries : List BlockInfo} (h : ∀ b ∈ entries, b.IsNamed) :
    sortByName entries
      = .ok (entries.mergeSort fun a b => decide (a.name.shown ≤ b.name.shown)) := by
  have hnone : unordered? [] (entries.map (·.name)) = none :=
    unordered?_eq_none (List.forall_mem_map.mpr h) (by simp)
  have hsorted := List.map_mergeSort (f := id) (r := fun a b : BlockInfo => !isBefore b a)
    (s := fun a b : BlockInfo => decide (a.name.shown ≤ b.name.shown))
    fun a ha b hb => isBefore_of_named (h a ha) (h b hb)
  rw [List.map_id, List.map_id] at hsorted
  rw [sortByName, hnone]
  exact congrArg Except.ok hsorted

/-- Blocks that all have names are sorted: it is a listing of the same blocks, with the names in
order. -/
theorem sortByName_eq_ok {blocks : List BlockInfo} (h : ∀ b ∈ blocks, b.IsNamed) :
    ∃ sorted, sortByName blocks = .ok sorted ∧ sorted.Perm blocks
      ∧ sorted.map (·.name.shown) = byName (blocks.map (·.name.shown)) := by
  refine ⟨_, sortByName_eq_mergeSort h, List.mergeSort_perm _ _, ?_⟩
  exact List.map_mergeSort fun a _ b _ => rfl

/-! ## Equal names -/

/-- Elements that all go before each other keep their order. -/
theorem filter_mergeSort {α : Type} {le : α → α → Bool} {p : α → Bool} (xs : List α)
    (trans : ∀ a b c, le a b = true → le b c = true → le a c = true)
    (total : ∀ a b, (le a b || le b a) = true)
    (equal : ∀ a b, p a = true → p b = true → le a b = true) :
    (xs.mergeSort le).filter p = xs.filter p := by
  have hsorted : (xs.filter p).Pairwise fun a b => le a b = true := by
    apply List.pairwise_of_forall_mem_list
    intro a ha b hb
    exact equal a b (List.mem_filter.mp ha).2 (List.mem_filter.mp hb).2
  have hsub := (List.sublist_mergeSort trans total hsorted List.filter_sublist).filter p
  simp only [List.filter_filter, Bool.and_self] at hsub
  exact (hsub.eq_of_length ((List.mergeSort_perm xs le).filter p).length_eq.symm).symm

/-- The listing has the same entries by name, and those of one name in the order they had. -/
structure SortedFrom (entries blocks : List BlockInfo) : Prop where
  perm : blocks.Perm entries
  ordered : (blocks.map (·.name.shown)).Pairwise (· ≤ ·)
  stable : ∀ name, blocks.filter (·.isCalled name) = entries.filter (·.isCalled name)

theorem shown_of_isCalled {name : String} {b : BlockInfo} (h : b.isCalled name = true) :
    b.name.shown = name := by
  rw [isCalled, beq_iff_eq] at h
  cases hname : b.name <;> rw [hname] at h <;> cases h
  rfl

/-- Entries with names are sorted by them. -/
theorem sortByName_sortedFrom {entries : List BlockInfo} (h : ∀ b ∈ entries, b.IsNamed) :
    ∃ blocks, sortByName entries = .ok blocks ∧ SortedFrom entries blocks := by
  obtain ⟨blocks, hblocks, hperm, hnames⟩ := sortByName_eq_ok h
  refine ⟨blocks, hblocks, hperm, hnames ▸ pairwise_byName _, ?_⟩
  intro name
  rw [sortByName_eq_mergeSort h, Except.ok.injEq] at hblocks
  rw [← hblocks]
  apply filter_mergeSort
  · intro a b c hab hbc
    exact decide_eq_true (le_trans (of_decide_eq_true hab) (of_decide_eq_true hbc))
  · intro a b
    rw [Bool.or_eq_true, decide_eq_true_eq, decide_eq_true_eq]
    exact le_total _ _
  · intro a b ha hb
    rw [shown_of_isCalled ha, shown_of_isCalled hb]
    exact decide_eq_true (le_refl name)

end BlockAuthoring.BlockInfo
