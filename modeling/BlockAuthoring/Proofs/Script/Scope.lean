import BlockAuthoring.Proofs.Script.Declaring

/-!
# The names of a scope

What a scope reports are, in document order, the names that are declared in it once more. The names
are those of its own statements, and the order of the statements does not matter for whether
anything is reported.
-/

namespace BlockAuthoring.Script

/-! ## Redeclared names in document order -/

/-- In a sorted list, what stands in front of an entry is what is smaller. -/
theorem mem_take_iff_of_pairwise {found : List (Address × Declared)}
    (hsorted : found.Pairwise fun a b => a.1 < b.1) {j : Nat} {a b : Address × Declared}
    (ha : found[j]? = some a) : b ∈ found.take j ↔ b ∈ found ∧ b.1 < a.1 := by
  have hlt : ∀ {i k : Nat} {x y : Address × Declared}, found[i]? = some x → found[k]? = some y →
      i < k → x.1 < y.1 := by
    intro i k x y hx hy hik
    obtain ⟨hi, rfl⟩ := List.getElem?_eq_some_iff.mp hx
    obtain ⟨hk, rfl⟩ := List.getElem?_eq_some_iff.mp hy
    exact List.pairwise_iff_getElem.mp hsorted i k hi hk hik
  simp only [List.mem_iff_getElem?, List.getElem?_take]
  constructor
  · rintro ⟨i, hi⟩
    split at hi
    · exact ⟨⟨i, hi⟩, hlt hi ha ‹_›⟩
    · cases hi
  · rintro ⟨⟨i, hi⟩, hba⟩
    refine ⟨i, ?_⟩
    rcases Nat.lt_trichotomy i j with hij | rfl | hji
    · rw [if_pos hij, hi]
    · cases Option.some.inj (hi.symm.trans ha)
      exact absurd hba (List.lt_irrefl _)
    · exact absurd hba (List.lt_asymm (hlt ha hi hji))

/-- The report on the entry at an index: where it stands and its name, if it clashes with an entry
in front of it. -/
def reportOn (found : List (Address × Declared)) (entry : (Address × Declared) × Nat) :
    Option (Address × Node) :=
  if ∃ e ∈ (found.map Prod.snd).take entry.2, Clash e entry.1.2
    then some (entry.1.1, entry.1.2.name) else none

theorem reportOn_eq_some_iff {found : List (Address × Declared)}
    (hsorted : found.Pairwise fun a b => a.1 < b.1) {j : Nat} {a : Address × Declared}
    (ha : found[j]? = some a) (v : Address × Node) :
    reportOn found (a, j) = some v ↔
      (∃ p e, (p, e) ∈ found ∧ p < a.1 ∧ Clash e a.2) ∧ v = (a.1, a.2.name) := by
  have hclash : (∃ e ∈ (found.map Prod.snd).take j, Clash e a.2) ↔
      ∃ p e, (p, e) ∈ found ∧ p < a.1 ∧ Clash e a.2 := by
    simp only [← List.map_take, List.mem_map, mem_take_iff_of_pairwise hsorted ha, Prod.exists]
    constructor
    · rintro ⟨e, ⟨p, e', ⟨hmem, hlt⟩, rfl⟩, hc⟩
      exact ⟨p, e', hmem, hlt, hc⟩
    · rintro ⟨p, e, hmem, hlt, hc⟩
      exact ⟨e, ⟨p, e, ⟨hmem, hlt⟩, rfl⟩, hc⟩
  simp only [reportOn, hclash, Option.ite_none_right_eq_some, Option.some.injEq, @eq_comm _ v]

/-- The declarations that clash with an earlier one are reported in document order. -/
theorem redeclaredAfter_inOrder {stands : Address → Declared → Prop} {declarations : List Declared}
    (h : InOrder stands declarations) :
    InOrder (fun q n => ∃ d, stands q d ∧ (∃ p e, stands p e ∧ p < q ∧ Clash e d) ∧ n = d.name)
      (redeclaredAfter [] [] declarations) := by
  obtain ⟨found, hsorted, hmem, rfl⟩ := h
  refine ⟨found.zipIdx.filterMap (reportOn found), ?_, fun q n => ?_, ?_⟩
  · have hzip := hsorted
    rw [← List.zipIdx_map_fst 0 found, List.pairwise_map] at hzip
    refine List.pairwise_filterMap.mpr (hzip.imp_of_mem fun hx hy hxy v hv w hw => ?_)
    obtain ⟨-, rfl⟩ := (reportOn_eq_some_iff hsorted (List.mem_zipIdx_iff_getElem?.mp hx) v).mp hv
    obtain ⟨-, rfl⟩ := (reportOn_eq_some_iff hsorted (List.mem_zipIdx_iff_getElem?.mp hy) w).mp hw
    exact hxy
  · simp only [List.mem_filterMap, Prod.exists, List.mem_zipIdx_iff_getElem?, ← hmem]
    constructor
    · rintro ⟨p, d, j, hj, hv⟩
      obtain ⟨hearlier, hv⟩ := (reportOn_eq_some_iff hsorted hj _).mp hv
      cases hv
      exact ⟨d, List.mem_of_getElem? hj, hearlier, rfl⟩
    · rintro ⟨d, hd, hearlier, rfl⟩
      obtain ⟨j, hj⟩ := List.mem_iff_getElem?.mp hd
      exact ⟨q, d, j, hj, (reportOn_eq_some_iff hsorted hj _).mpr ⟨hearlier, rfl⟩⟩
  · rw [redeclaredAfter_eq .nil, List.length_nil, List.nil_append, List.zipIdx_map,
      List.filterMap_map, List.map_filterMap]
    exact List.filterMap_congr fun x _ => apply_ite (Option.map Prod.snd) _ _ _

/-! ## The order of the statements -/

theorem Clash.symm {e d : Declared} (h : Clash e d) : Clash d e :=
  ⟨h.1.symm, h.2.symm⟩

namespace Node

theorem redeclared_eq_nil_iff (scope : Node) :
    scope.redeclared = [] ↔ scope.scopeDeclarations.Pairwise fun e d => ¬ Clash e d := by
  rw [List.eq_nil_iff_forall_not_mem, List.pairwise_iff_getElem]
  simp only [mem_redeclared_iff, Redeclares, List.getElem?_eq_some_iff]
  constructor
  · intro h i j hi hj hij hclash
    exact h _ ⟨i, j, _, _, hij, ⟨hi, rfl⟩, ⟨hj, rfl⟩, hclash, rfl⟩
  · rintro h n ⟨i, j, _, _, hij, ⟨hi, rfl⟩, ⟨hj, rfl⟩, hclash, -⟩
    exact h i j hi hj hij hclash

/-- Children in another order are statements in another order. -/
theorem scopeStatements_perm {scope other : Node} (hkind : other.kind = scope.kind)
    (h : other.children.Perm scope.children) :
    other.scopeStatements.Perm scope.scopeStatements := by
  unfold scopeStatements
  rw [hkind]
  split
  · exact h.flatMap_right _
  · exact h

/-- Whether a scope is refused does not depend on the order of its statements. -/
theorem redeclared_eq_nil_of_perm {scope other : Node}
    (h : other.scopeStatements.Perm scope.scopeStatements) :
    other.redeclared = [] ↔ scope.redeclared = [] := by
  rw [redeclared_eq_nil_iff, redeclared_eq_nil_iff]
  exact (h.flatMap_right declares).pairwise_iff fun hno hclash => hno hclash.symm

end Node

end BlockAuthoring.Script
