import BlockAuthoring.Script.Tree

/-!
# Addresses in a syntax tree

A node of a tree is found by the indices of the children to step into. Addresses give a tree the
words that rules about it need: the ancestors of a node, the nearest first, and document order,
which is the lexicographic order of addresses.

`visible` lists the nodes that are not inside markup with their addresses. It holds each of them
once and in document order (`mem_visible_iff`, `visible_pairwise`), which is all that a proof about
a walk through a tree needs to know.
-/

namespace BlockAuthoring.Script

/-- The indices of the children to step into, from the root on. -/
abbrev Address := List Nat

namespace Node

/-- A node is settled once its children are. -/
theorem ind {motive : Node → Prop}
    (h : ∀ n : Node, (∀ c ∈ n.children, motive c) → motive n) : ∀ n, motive n
  | ⟨kind, role, start, stop, text, children⟩ =>
    h ⟨kind, role, start, stop, text, children⟩ fun c hc =>
      have : sizeOf c < sizeOf children := List.sizeOf_lt_of_mem hc
      ind h c
  termination_by n => sizeOf n
  decreasing_by
    simp only [mk.sizeOf_spec]
    omega

/-- The node at an address. -/
def at? (n : Node) : Address → Option Node
  | [] => some n
  | i :: p => (n.children[i]?).bind (at? · p)

/-- The nodes above an address, the nearest first. -/
def ancestors (n : Node) : Address → List Node
  | [] => []
  | i :: p => ((n.children[i]?).elim [] (ancestors · p)) ++ [n]

/-- No node above the address is markup. -/
def OutsideMarkup (n : Node) (p : Address) : Prop := ∀ a ∈ n.ancestors p, a.kind.isJsx = false

/-- The nodes that are not inside markup, with their addresses. -/
def visible : Node → List (Address × Node)
  | ⟨kind, role, start, stop, text, children⟩ =>
    ([], ⟨kind, role, start, stop, text, children⟩)
      :: if kind.isJsx then [] else inAll 0 children
where
  /-- The visible nodes of the trees, the first of them under `index`. -/
  inAll (index : Nat) : List Node → List (Address × Node)
    | [] => []
    | n :: rest => (visible n).map (fun (p, m) => (index :: p, m)) ++ inAll (index + 1) rest

/-! ## Walking through a tree -/

@[simp] theorem at?_nil (n : Node) : n.at? [] = some n := rfl

theorem at?_cons (n : Node) (i : Nat) (p : Address) :
    n.at? (i :: p) = (n.children[i]?).bind (·.at? p) := rfl

@[simp] theorem ancestors_nil (n : Node) : n.ancestors [] = [] := rfl

theorem ancestors_cons {n c : Node} {i : Nat} (h : n.children[i]? = some c) (p : Address) :
    n.ancestors (i :: p) = c.ancestors p ++ [n] := by
  simp [ancestors, h]

theorem outsideMarkup_nil (n : Node) : n.OutsideMarkup [] := by
  simp [OutsideMarkup]

theorem outsideMarkup_cons {n c : Node} {i : Nat} (h : n.children[i]? = some c) (p : Address) :
    n.OutsideMarkup (i :: p) ↔ c.OutsideMarkup p ∧ n.kind.isJsx = false := by
  simp [OutsideMarkup, ancestors_cons h, or_imp, forall_and]

theorem visible_eq (n : Node) :
    n.visible = ([], n) :: if n.kind.isJsx then [] else visible.inAll 0 n.children := by
  cases n
  rw [visible]

/-! ## The visible nodes -/

theorem mem_inAll_iff (children : List Node) (k : Nat) (p : Address) (m : Node) :
    (p, m) ∈ visible.inAll k children ↔
      ∃ i q c, p = (k + i) :: q ∧ children[i]? = some c ∧ (q, m) ∈ c.visible := by
  induction children generalizing k with
  | nil => simp [visible.inAll]
  | cons c rest ih =>
    simp only [visible.inAll, List.mem_append, List.mem_map, ih]
    constructor
    · rintro (⟨⟨q, m'⟩, hq, heq⟩ | ⟨i, q, c', rfl, hc, hq⟩)
      · cases heq
        exact ⟨0, q, c, rfl, rfl, hq⟩
      · exact ⟨i + 1, q, c', by rw [Nat.add_right_comm, Nat.add_assoc], by simpa using hc, hq⟩
    · rintro ⟨i, q, c', rfl, hc, hq⟩
      cases i with
      | zero =>
        cases Option.some.inj hc
        exact .inl ⟨(q, m), hq, by simp⟩
      | succ i =>
        exact .inr ⟨i, q, c', by rw [Nat.add_right_comm, Nat.add_assoc], by simpa using hc, hq⟩

theorem cons_mem_inAll_iff (children : List Node) (i : Nat) (q : Address) (m : Node) :
    (i :: q, m) ∈ visible.inAll 0 children ↔
      ∃ c, children[i]? = some c ∧ (q, m) ∈ c.visible := by
  rw [mem_inAll_iff]
  constructor
  · rintro ⟨j, q', c, heq, hc, hq⟩
    obtain ⟨rfl, rfl⟩ : i = j ∧ q = q' := by simpa using heq
    exact ⟨c, hc, hq⟩
  · rintro ⟨c, hc, hq⟩
    exact ⟨i, q, c, by simp, hc, hq⟩

/-- A node is listed under each of its addresses that lie outside markup. -/
theorem mem_visible_iff (n : Node) (p : Address) (m : Node) :
    (p, m) ∈ n.visible ↔ n.at? p = some m ∧ n.OutsideMarkup p := by
  induction n using ind generalizing p with
  | h n ih =>
    rw [visible_eq, List.mem_cons]
    cases p with
    | nil =>
      have hbelow : ([], m) ∉ visible.inAll 0 n.children := by
        simp [mem_inAll_iff]
      constructor
      · rintro (hroot | hmem)
        · obtain rfl : m = n := (Prod.mk.inj hroot).2
          exact ⟨rfl, outsideMarkup_nil m⟩
        · split at hmem
          · simp at hmem
          · exact absurd hmem hbelow
      · rintro ⟨hat, -⟩
        cases Option.some.inj hat
        exact .inl rfl
    | cons i q =>
      simp only [Prod.mk.injEq, reduceCtorEq, false_and, false_or]
      cases hc : n.children[i]? with
      | none =>
        simp only [at?_cons, hc, Option.bind_none, reduceCtorEq, false_and, iff_false]
        split
        · simp
        · simp [cons_mem_inAll_iff, hc]
      | some c =>
        rw [at?_cons, hc, Option.bind_some, outsideMarkup_cons hc, ← and_assoc,
          ← ih c (List.mem_of_getElem? hc) q]
        cases n.kind.isJsx with
        | true => simp
        | false => simp [cons_mem_inAll_iff, hc]

/-! ## Document order -/

theorem inAll_pairwise (children : List Node) (k : Nat)
    (h : ∀ c ∈ children, c.visible.Pairwise fun a b => a.1 < b.1) :
    (visible.inAll k children).Pairwise fun a b => a.1 < b.1 := by
  induction children generalizing k with
  | nil => simp [visible.inAll]
  | cons c rest ih =>
    rw [visible.inAll, List.pairwise_append]
    refine ⟨?_, ih (k + 1) fun c' hc' => h c' (by simp [hc']), ?_⟩
    · refine List.Pairwise.map _ (fun a b hab => ?_) (h c (by simp))
      exact List.cons_lt_cons_self.mpr hab
    -- Addresses below this child start with `k`, those below the others with something larger.
    · rintro ⟨p, m⟩ hp ⟨q, m'⟩ hq
      obtain ⟨⟨p', m''⟩, -, hpm⟩ := List.mem_map.mp hp
      obtain ⟨i, q', c', rfl, -⟩ := (mem_inAll_iff rest (k + 1) q m').mp hq
      cases hpm
      exact List.Lex.rel (by omega)

/-- The nodes are listed in document order, each address once. -/
theorem visible_pairwise (n : Node) : n.visible.Pairwise fun a b => a.1 < b.1 := by
  induction n using ind with
  | h n ih =>
    rw [visible_eq, List.pairwise_cons]
    constructor
    · rintro ⟨p, m⟩ hp
      split at hp
      · simp at hp
      · obtain ⟨i, q, c, rfl, -⟩ := (mem_inAll_iff _ _ _ _).mp hp
        exact List.Lex.nil
    · split
      · simp
      · exact inAll_pairwise n.children 0 ih

end Node

end BlockAuthoring.Script
