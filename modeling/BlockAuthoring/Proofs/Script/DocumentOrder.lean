import BlockAuthoring.Proofs.Script.Address
import Mathlib.Data.List.Basic

/-!
# What stands in a tree, in document order

A list that is gathered from a tree is compared with a statement about single addresses: `InOrder`
says that the list holds whatever stands at some address, once for each address and in document
order. The lemmas follow the ways in which such lists are put together: from the node itself, from
one child, from all children or from those of a kind.
-/

namespace BlockAuthoring.Script

variable {α β : Type}

/-- The list holds what stands at the addresses, in document order. -/
def InOrder (stands : Address → α → Prop) (xs : List α) : Prop :=
  ∃ found : List (Address × α), found.Pairwise (fun a b => a.1 < b.1)
    ∧ (∀ p x, (p, x) ∈ found ↔ stands p x) ∧ found.map (·.2) = xs

namespace Node

/-- The child at the index is the first one in the role. -/
def Plays (n : Node) (role : Role) (i : Nat) (c : Node) : Prop :=
  n.children[i]? = some c ∧ c.role = role
    ∧ ∀ j < i, ∀ c', n.children[j]? = some c' → c'.role ≠ role

variable {n c : Node} {role : Role} {i : Nat}

theorem child?_eq_some_iff : n.child? role = some c ↔ ∃ i, n.Plays role i c := by
  simp only [child?, List.find?_eq_some_iff_getElem, beq_iff_eq, Bool.not_eq_true',
    beq_eq_false_iff_ne, Plays, List.getElem?_eq_some_iff]
  constructor
  · rintro ⟨hrole, i, hi, rfl, hbefore⟩
    refine ⟨i, ⟨hi, rfl⟩, hrole, ?_⟩
    rintro j hj _ ⟨_, rfl⟩
    exact hbefore j hj
  · rintro ⟨i, ⟨hi, rfl⟩, hrole, hbefore⟩
    exact ⟨hrole, i, hi, rfl, fun j hj => hbefore j hj _ ⟨by omega, rfl⟩⟩

theorem child?_eq_none_iff : n.child? role = none ↔ ∀ i c, ¬ n.Plays role i c := by
  rw [Option.eq_none_iff_forall_ne_some, forall_comm]
  simp only [ne_eq, child?_eq_some_iff, not_exists]

theorem Plays.unique {j : Nat} {d : Node} (hc : n.Plays role i c) (hd : n.Plays role j d) :
    i = j ∧ c = d := by
  obtain ⟨hi, hci, hbi⟩ := hc
  obtain ⟨hj, hdj, hbj⟩ := hd
  rcases Nat.lt_trichotomy i j with hlt | rfl | hlt
  · exact absurd hci (hbj i hlt c hi)
  · exact ⟨rfl, Option.some.inj (hi.symm.trans hj)⟩
  · exact absurd hdj (hbi j hlt d hj)

end Node

namespace InOrder

variable {stands stands' : Address → α → Prop} {xs : List α}

theorem congr (h : InOrder stands xs) (hiff : ∀ p x, stands p x ↔ stands' p x) :
    InOrder stands' xs := by
  obtain ⟨found, hsorted, hmem, hxs⟩ := h
  exact ⟨found, hsorted, fun p x => (hmem p x).trans (hiff p x), hxs⟩

/-- Where nothing stands, nothing is found. -/
theorem none (h : ∀ p x, ¬ stands p x) : InOrder stands [] :=
  ⟨[], .nil, fun p x => by simp [h], rfl⟩

/-- The tree itself is found. -/
theorem root (x : α) : InOrder (fun p y => p = [] ∧ y = x) [x] :=
  ⟨[([], x)], by simp, by simp, rfl⟩

theorem map (g : α → β) (h : InOrder stands xs) :
    InOrder (fun p y => ∃ x, stands p x ∧ y = g x) (xs.map g) := by
  obtain ⟨found, hsorted, hmem, rfl⟩ := h
  refine ⟨found.map fun a => (a.1, g a.2), ?_, fun p y => ?_, by simp⟩
  · exact List.pairwise_map.mpr hsorted
  · simp only [List.mem_map, Prod.mk.injEq, Prod.exists, hmem]
    constructor
    · rintro ⟨p, x, hx, rfl, rfl⟩
      exact ⟨x, hx, rfl⟩
    · rintro ⟨x, hx, rfl⟩
      exact ⟨p, x, hx, rfl, rfl⟩

/-- What is found in a child is found under its index. -/
theorem child (i : Nat) (h : InOrder stands xs) :
    InOrder (fun p x => ∃ q, p = i :: q ∧ stands q x) xs := by
  obtain ⟨found, hsorted, hmem, rfl⟩ := h
  refine ⟨found.map fun a => (i :: a.1, a.2), ?_, fun p x => ?_, by simp⟩
  · exact List.pairwise_map.mpr (hsorted.imp fun hab => List.cons_lt_cons_self.mpr hab)
  · simp only [List.mem_map, Prod.mk.injEq, Prod.exists, hmem]
    constructor
    · rintro ⟨q, x, hx, rfl, rfl⟩
      exact ⟨q, rfl, hx⟩
    · rintro ⟨q, rfl, hx⟩
      exact ⟨q, x, hx, rfl, rfl⟩

section Children

variable {below : Node → Address → α → Prop} {f : Node → List α} {cs : List Node}

/-- What is found in the children, the first of them under `k`, is found one after the other. -/
theorem childrenFrom (k : Nat) (h : ∀ c ∈ cs, InOrder (below c) (f c)) :
    InOrder (fun p x => ∃ i c q, p = (k + i) :: q ∧ cs[i]? = some c ∧ below c q x)
      (cs.flatMap f) := by
  induction cs generalizing k with
  | nil => exact none fun p x => by simp
  | cons c rest ih =>
    obtain ⟨here, hhere, hmem, hf⟩ := (h c List.mem_cons_self).child k
    obtain ⟨later, hlater, hmem', hrest⟩ := ih (k + 1) fun c' hc' => h c' (List.mem_cons_of_mem _ hc')
    refine ⟨here ++ later, List.pairwise_append.mpr ⟨hhere, hlater, ?_⟩, fun p x => ?_, ?_⟩
    -- Addresses below this child start with `k`, those below the others with something larger.
    · rintro ⟨p, x⟩ hp ⟨q, y⟩ hq
      obtain ⟨p', rfl, -⟩ := (hmem p x).mp hp
      obtain ⟨i, c', q', rfl, -⟩ := (hmem' q y).mp hq
      exact List.Lex.rel (by omega)
    · rw [List.mem_append, hmem, hmem']
      constructor
      · rintro (⟨q, rfl, hx⟩ | ⟨i, c', q, rfl, hc', hx⟩)
        · exact ⟨0, c, q, rfl, rfl, hx⟩
        · exact ⟨i + 1, c', q, by rw [Nat.add_right_comm, Nat.add_assoc], hc', hx⟩
      · rintro ⟨i, c', q, rfl, hc', hx⟩
        cases i with
        | zero =>
          cases Option.some.inj hc'
          exact .inl ⟨q, rfl, hx⟩
        | succ i =>
          exact .inr ⟨i, c', q, by rw [Nat.add_right_comm, Nat.add_assoc], hc', hx⟩
    · rw [List.map_append, hf, hrest, List.flatMap_cons]

/-- What is found in all children. -/
theorem children (h : ∀ c ∈ cs, InOrder (below c) (f c)) :
    InOrder (fun p x => ∃ i c q, p = i :: q ∧ cs[i]? = some c ∧ below c q x)
      (cs.flatMap f) := by
  simpa only [Nat.zero_add] using childrenFrom 0 h

/-- What is found in the children of a kind. -/
theorem childrenWhere {isOf : Node → Bool}
    (h : ∀ c ∈ cs, isOf c = true → InOrder (below c) (f c)) :
    InOrder (fun p x => ∃ i c q, p = i :: q ∧ cs[i]? = some c ∧ isOf c = true ∧ below c q x)
      ((cs.filter isOf).flatMap f) := by
  have hfilter : (cs.filter isOf).flatMap f
      = cs.flatMap fun c => if isOf c then f c else [] := by
    induction cs with
    | nil => rfl
    | cons c rest ih =>
      rw [List.filter_cons, List.flatMap_cons, ← ih fun c' hc' => h c' (List.mem_cons_of_mem _ hc')]
      split <;> simp
  rw [hfilter]
  refine .children fun c hc => ?_
  cases hkind : isOf c with
  | true => exact (h c hc hkind).congr fun p x => by simp
  | false => exact .none fun p x => by simp

/-- What is found in the first child in a role. -/
theorem first {n : Node} {role : Role}
    (h : ∀ c ∈ n.children, InOrder (below c) (f c)) :
    InOrder (fun p x => ∃ i c q, p = i :: q ∧ n.Plays role i c ∧ below c q x)
      ((n.child? role).elim [] f) := by
  cases hchild : n.child? role with
  | none =>
    refine .none ?_
    rintro p x ⟨i, c, q, -, hplays, -⟩
    exact Node.child?_eq_none_iff.mp hchild i c hplays
  | some c =>
    obtain ⟨i, hplays⟩ := Node.child?_eq_some_iff.mp hchild
    refine ((h c (List.mem_of_getElem? hplays.1)).child i).congr fun p x => ?_
    constructor
    · rintro ⟨q, rfl, hx⟩
      exact ⟨i, c, q, rfl, hplays, hx⟩
    · rintro ⟨j, d, q, rfl, hplays', hx⟩
      obtain ⟨rfl, rfl⟩ := hplays.unique hplays'
      exact ⟨q, rfl, hx⟩

end Children

end InOrder

end BlockAuthoring.Script
