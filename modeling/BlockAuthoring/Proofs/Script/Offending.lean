import BlockAuthoring.Proofs.Script.Address
import BlockAuthoring.Proofs.Script.Redeclaration
import BlockAuthoring.Script.Gate

/-!
# Offending nodes

What a strict module refuses, said about addresses in the tree and their ancestors instead of a
walk through it, and the proof that the walk finds just that: its suspects are those of the
visible nodes in document order (`suspects_eq`), so its offences are the offending nodes
(`mem_offences_iff`), and a tree is refused for one that starts first.
-/

namespace BlockAuthoring.Script

namespace Node

/-! ## What offends -/

/-- The nearest of the functions and static blocks around an address is a function. -/
def InFunction (root : Node) (p : Address) : Prop :=
  ∃ f, (root.ancestors p).find? (fun a => a.kind.isFunction || a.kind == .classStaticBlock) = some f
    ∧ f.kind.isFunction = true

/-- At `p` stands a default export that is not inside markup. -/
def ExportsDefault (root : Node) (p : Address) (n : Node) : Prop :=
  root.at? p = some n ∧ root.OutsideMarkup p ∧ n.kind = .exportDefault

/-- The nodes a strict module is refused for. -/
inductive Offends (root : Node) : Offence → Prop
  | markup {p : Address} {n : Node} (here : root.at? p = some n)
      (outside : root.OutsideMarkup p) (kind : n.kind.isJsx = true) : Offends root ⟨n, .markup⟩
  | withStatement {p : Address} {n : Node} (here : root.at? p = some n)
      (outside : root.OutsideMarkup p) (kind : n.kind = .withStatement) :
      Offends root ⟨n, .withStatement⟩
  | strayReturn {p : Address} {n : Node} (here : root.at? p = some n)
      (outside : root.OutsideMarkup p) (kind : n.kind = .returnStatement)
      (stray : ¬ root.InFunction p) : Offends root ⟨n, .strayReturn⟩
  | legacyNumber {p : Address} {n : Node} {digit : Char} {more : List Char}
      (here : root.at? p = some n) (outside : root.OutsideMarkup p) (kind : n.kind = .number)
      (text : n.text = '0' :: digit :: more) (isDigit : digit.isDigit = true) :
      Offends root ⟨n, .legacyNumber⟩
  | secondDefaultExport {p q : Address} {m n : Node} (first : root.ExportsDefault p m)
      (later : p < q) (second : root.ExportsDefault q n) :
      Offends root ⟨n, .secondDefaultExport⟩
  | redeclared {p : Address} {scope n : Node} (here : root.at? p = some scope)
      (outside : root.OutsideMarkup p) (kind : scope.kind.isScope = true)
      (again : Redeclares scope.scopeDeclarations n) : Offends root ⟨n, .redeclared n.text⟩

/-! ## Where `return` is legal -/

/-- `return` is legal below nodes with these ancestors, the nearest first. -/
def returnAllowedUnder (inFunction : Bool) (above : List Node) : Bool :=
  above.foldr (fun a allowed => returnAllowedBelow allowed a.kind) inFunction

/-- Only the nearest of the functions and static blocks above decides. -/
theorem returnAllowedUnder_iff (above : List Node) :
    returnAllowedUnder false above = true ↔
      ∃ f, above.find? (fun a => a.kind.isFunction || a.kind == .classStaticBlock) = some f
        ∧ f.kind.isFunction = true := by
  induction above with
  | nil => simp [returnAllowedUnder]
  | cons a rest ih =>
    -- A function allows it whatever is above, a static block forbids it, other nodes pass it on.
    have hstep : returnAllowedUnder false (a :: rest) =
        (a.kind.isFunction || (returnAllowedUnder false rest && a.kind != .classStaticBlock)) := rfl
    rw [hstep, List.find?_cons]
    cases hf : a.kind.isFunction with
    | true => simp [hf]
    | false =>
      by_cases hb : a.kind = .classStaticBlock
      · have hkind : Kind.isFunction .classStaticBlock = false := rfl
        simp [hb, hkind]
      · have hbeq : (a.kind == .classStaticBlock) = false := by simpa using hb
        simp [hb, hbeq, ih]

/-! ## The walk -/

/-- What the walk suspects a node of that it looks at. -/
def suspectsAt (inFunction : Bool) (n : Node) : List Suspect :=
  if n.kind.isJsx then [.offence ⟨n, .markup⟩] else suspectedOf inFunction n

theorem suspects_inAll_eq (inFunction : Bool) (children : List Node) :
    suspects.inAll inFunction children = children.flatMap (suspects inFunction) := by
  induction children with
  | nil => rfl
  | cons c rest ih => rw [suspects.inAll, ih, List.flatMap_cons]

/-- What is gathered from the visible nodes of the trees is gathered tree by tree. -/
theorem flatMap_inAll {β : Type} (gather : Address × Node → List β) (whole : Node → List β)
    (children : List Node) (k : Nat)
    (h : ∀ i c, children[i]? = some c →
      c.visible.flatMap (fun v => gather ((k + i) :: v.1, v.2)) = whole c) :
    (visible.inAll k children).flatMap gather = children.flatMap whole := by
  induction children generalizing k with
  | nil => rfl
  | cons c rest ih =>
    rw [visible.inAll, List.flatMap_append, List.flatMap_cons, List.flatMap_map, ← h 0 c rfl,
      ih (k + 1)]
    · rfl
    · intro i c' hc
      rw [← h (i + 1) c' hc, Nat.add_right_comm, Nat.add_assoc]

/-- The suspects of a tree are those of its visible nodes, one after the other. -/
theorem suspects_eq (n : Node) (inFunction : Bool) :
    n.suspects inFunction =
      n.visible.flatMap fun v =>
        suspectsAt (returnAllowedUnder inFunction (n.ancestors v.1)) v.2 := by
  induction n using ind generalizing inFunction with
  | h n ih =>
    have hwalk : n.suspects inFunction =
        if n.kind.isJsx then [.offence ⟨n, .markup⟩]
        else suspectedOf inFunction n
          ++ suspects.inAll (returnAllowedBelow inFunction n.kind) n.children := by
      cases n
      rw [suspects]
    rw [hwalk, visible_eq, List.flatMap_cons, suspectsAt]
    cases n.kind.isJsx with
    | true => rfl
    | false =>
      -- What a child inherits is what its ancestors allow, because the node itself is the last one.
      have hbelow := flatMap_inAll
        (fun v => suspectsAt (returnAllowedUnder inFunction (n.ancestors v.1)) v.2)
        (suspects (returnAllowedBelow inFunction n.kind)) n.children 0 ?_
      · simp only [Bool.false_eq_true, if_false, hbelow, suspects_inAll_eq]
        rfl
      · intro i c hc
        rw [ih c (List.mem_of_getElem? hc)]
        simp only [Nat.zero_add, ancestors_cons hc, returnAllowedUnder, List.foldr_append,
          List.foldr_cons, List.foldr_nil]

/-! ## What a visible node is suspected of -/

theorem isJsx_of_isScope {kind : Kind} (h : kind.isScope = true) : kind.isJsx = false := by
  cases kind <;> first | rfl | cases h

theorem isLegacyNumber_iff (n : Node) :
    n.isLegacyNumber = true ↔
      n.kind = .number ∧ ∃ digit more, n.text = '0' :: digit :: more ∧ digit.isDigit = true := by
  unfold isLegacyNumber
  split
  · rename_i digit more hkind htext
    simp [hkind, htext]
  · rename_i hno
    constructor
    · intro h
      cases h
    · rintro ⟨hkind, digit, more, htext, -⟩
      exact absurd htext (hno digit more hkind)

theorem isLegacyNumber_of_kind {n : Node} (h : n.kind ≠ .number) : n.isLegacyNumber = false := by
  cases hl : n.isLegacyNumber with
  | false => rfl
  | true => exact absurd ((isLegacyNumber_iff n).mp hl).1 h

/-- The offences of a node that is looked at, whatever they are. -/
theorem offence_mem_suspectsAt_iff (inFunction : Bool) (n : Node) (o : Offence) :
    .offence o ∈ suspectsAt inFunction n ↔
      (n.kind.isJsx = true ∧ o = ⟨n, .markup⟩)
        ∨ (n.kind = .withStatement ∧ o = ⟨n, .withStatement⟩)
        ∨ (n.kind = .returnStatement ∧ inFunction = false ∧ o = ⟨n, .strayReturn⟩)
        ∨ (n.isLegacyNumber = true ∧ o = ⟨n, .legacyNumber⟩)
        ∨ (n.kind.isScope = true ∧ ∃ d ∈ n.redeclared, o = ⟨d, .redeclared d.text⟩) := by
  unfold suspectsAt
  by_cases hj : n.kind.isJsx = true
  · have hne : ∀ k : Kind, k.isJsx = false → n.kind ≠ k := by
      rintro k hk rfl
      rw [hj] at hk
      cases hk
    have hscope : n.kind.isScope = false := by
      cases h : n.kind.isScope with
      | false => rfl
      | true => simp [isJsx_of_isScope h] at hj
    simp [hj, hne .withStatement rfl, hne .returnStatement rfl,
      isLegacyNumber_of_kind (hne .number rfl), hscope]
  · have hscope : Suspect.offence o ∈ (if n.kind.isScope then
          n.redeclared.map fun d => .offence ⟨d, .redeclared d.text⟩ else []) ↔
        n.kind.isScope = true ∧ ∃ d ∈ n.redeclared, o = ⟨d, .redeclared d.text⟩ := by
      cases n.kind.isScope <;> simp [eq_comm]
    rw [if_neg hj, suspectedOf, List.mem_append, hscope]
    simp only [hj, Bool.false_eq_true, false_and, false_or, ← or_assoc]
    refine or_congr_left ?_
    split
    · rename_i hkind
      simp [hkind, isLegacyNumber_of_kind]
    · rename_i hkind
      cases inFunction <;> simp [hkind, isLegacyNumber_of_kind]
    · rename_i hkind
      cases n.isLegacyNumber <;> simp [hkind]
    · rename_i hkind
      simp [hkind, isLegacyNumber_of_kind]
    · rename_i hwith hreturn hnumber _
      have hlegacy : n.isLegacyNumber = false := isLegacyNumber_of_kind hnumber
      simp only [List.not_mem_nil, hlegacy, Bool.false_eq_true, false_and, or_false, false_iff]
      rintro (⟨h, -⟩ | ⟨h, -⟩)
      · exact hwith h
      · exact hreturn h

/-- The default export that a suspect is. -/
def Suspect.export? : Suspect → Option Node
  | .offence _ => none
  | .defaultExport n => some n

@[simp] theorem Suspect.export?_offence (o : Offence) : (Suspect.offence o).export? = none := rfl

@[simp] theorem Suspect.export?_defaultExport (n : Node) :
    (Suspect.defaultExport n).export? = some n := rfl

/-- The default export of a node that is looked at. -/
theorem exports_suspectsAt (inFunction : Bool) (n : Node) :
    (suspectsAt inFunction n).filterMap Suspect.export? =
      if n.kind = .exportDefault then [n] else [] := by
  unfold suspectsAt
  by_cases hj : n.kind.isJsx = true
  · have hkind : n.kind ≠ .exportDefault := by
      intro h
      rw [h] at hj
      cases hj
    rw [if_pos hj, if_neg hkind]
    rfl
  · have hscope : (if n.kind.isScope then
        n.redeclared.map fun d => Suspect.offence ⟨d, .redeclared d.text⟩
          else []).filterMap Suspect.export? = [] := by
      cases n.kind.isScope <;> simp
    rw [if_neg hj, suspectedOf, List.filterMap_append, hscope, List.append_nil]
    split
    · rename_i hkind
      simp [hkind]
    · rename_i hkind
      cases inFunction <;> simp [hkind]
    · rename_i hkind
      cases n.isLegacyNumber <;> simp [hkind]
    · rename_i hkind
      simp [hkind]
    · rename_i hexport
      rw [if_neg hexport]
      rfl

/-! ## Default exports -/

/-- Every offence among suspects is one of their own or a default export behind another one. -/
theorem mem_offencesOf_iff (exported : Bool) (suspects : List Suspect) (o : Offence) :
    o ∈ offencesOf exported suspects ↔
      .offence o ∈ suspects ∨
        ∃ n ∈ (suspects.filterMap Suspect.export?).drop (if exported then 0 else 1),
          o = ⟨n, .secondDefaultExport⟩ := by
  induction suspects generalizing exported with
  | nil => simp [offencesOf]
  | cons s rest ih =>
    cases s with
    | offence p =>
      simp [offencesOf, ih, List.filterMap_cons, or_assoc]
    | defaultExport n =>
      have hrest := ih true
      cases exported with
      | true => simp [offencesOf, hrest, or_left_comm]
      | false => simp [offencesOf, hrest]

/-- The visible default exports, in document order. -/
def defaultExports (root : Node) : List (Address × Node) :=
  root.visible.filter fun v => v.2.kind = .exportDefault

theorem exports_suspects (root : Node) (inFunction : Bool) :
    (root.suspects inFunction).filterMap Suspect.export? = root.defaultExports.map (·.2) := by
  rw [suspects_eq, List.filterMap_flatMap, defaultExports]
  simp only [exports_suspectsAt]
  induction root.visible with
  | nil => rfl
  | cons v rest ih =>
    rw [List.flatMap_cons, ih, List.filter_cons]
    split <;> simp_all

theorem mem_defaultExports_iff (root : Node) (p : Address) (n : Node) :
    (p, n) ∈ root.defaultExports ↔ root.ExportsDefault p n := by
  simp [defaultExports, mem_visible_iff, ExportsDefault, and_assoc]

/-- Of the default exports, all but the first stand behind another one. -/
theorem mem_drop_exports_iff (root : Node) (n : Node) :
    n ∈ (root.defaultExports.map (·.2)).drop 1 ↔
      ∃ p m q, root.ExportsDefault p m ∧ p < q ∧ root.ExportsDefault q n := by
  have hsorted : root.defaultExports.Pairwise fun a b => a.1 < b.1 :=
    root.visible_pairwise.sublist List.filter_sublist
  simp only [← mem_defaultExports_iff]
  cases hexports : root.defaultExports with
  | nil => simp
  | cons v rest =>
    obtain ⟨first, m⟩ := v
    rw [hexports, List.pairwise_cons] at hsorted
    rw [List.map_cons, List.drop_succ_cons, List.drop_zero]
    constructor
    · intro hn
      obtain ⟨⟨q, n'⟩, hq, rfl⟩ := List.mem_map.mp hn
      exact ⟨first, m, q, by simp, hsorted.1 _ hq, by simp [hq]⟩
    · rintro ⟨p, m', q, hp, hpq, hq⟩
      rcases List.mem_cons.mp hq with heq | hq
      · cases heq
        rcases List.mem_cons.mp hp with heq | hp
        · cases heq
          exact absurd hpq (List.lt_irrefl _)
        · exact absurd (hsorted.1 _ hp) (List.lt_asymm hpq)
      · exact List.mem_map.mpr ⟨(q, n), hq, rfl⟩

/-! ## The offences of a tree -/

theorem offence_mem_suspects_iff (root : Node) (o : Offence) :
    .offence o ∈ root.suspects false ↔
      ∃ p n, root.at? p = some n ∧ root.OutsideMarkup p ∧
        .offence o ∈ suspectsAt (returnAllowedUnder false (root.ancestors p)) n := by
  simp [suspects_eq, List.mem_flatMap, mem_visible_iff, and_assoc]

theorem returnAllowedUnder_eq_false_iff (root : Node) (p : Address) :
    returnAllowedUnder false (root.ancestors p) = false ↔ ¬ root.InFunction p := by
  rw [InFunction, ← returnAllowedUnder_iff, Bool.not_eq_true]

/-- The walk collects the offending nodes and nothing else. -/
theorem mem_offences_iff (root : Node) (o : Offence) : o ∈ root.offences ↔ root.Offends o := by
  rw [offences, mem_offencesOf_iff, offence_mem_suspects_iff]
  simp only [exports_suspects, Bool.false_eq_true, if_false, mem_drop_exports_iff,
    offence_mem_suspectsAt_iff, returnAllowedUnder_eq_false_iff, mem_redeclared_iff,
    isLegacyNumber_iff]
  constructor
  · rintro (⟨p, n, here, outside, h⟩ | ⟨n, ⟨p, m, q, first, later, second⟩, rfl⟩)
    · rcases h with ⟨kind, rfl⟩ | ⟨kind, rfl⟩ | ⟨kind, stray, rfl⟩ |
        ⟨⟨kind, digit, more, text, isDigit⟩, rfl⟩ | ⟨kind, d, again, rfl⟩
      · exact .markup here outside kind
      · exact .withStatement here outside kind
      · exact .strayReturn here outside kind stray
      · exact .legacyNumber here outside kind text isDigit
      · exact .redeclared here outside kind again
    · exact .secondDefaultExport first later second
  · intro h
    cases h with
    | markup here outside kind => exact .inl ⟨_, _, here, outside, .inl ⟨kind, rfl⟩⟩
    | withStatement here outside kind =>
      exact .inl ⟨_, _, here, outside, .inr (.inl ⟨kind, rfl⟩)⟩
    | strayReturn here outside kind stray =>
      exact .inl ⟨_, _, here, outside, .inr (.inr (.inl ⟨kind, stray, rfl⟩))⟩
    | legacyNumber here outside kind text isDigit =>
      exact .inl ⟨_, _, here, outside,
        .inr (.inr (.inr (.inl ⟨⟨kind, _, _, text, isDigit⟩, rfl⟩)))⟩
    | secondDefaultExport first later second =>
      exact .inr ⟨_, ⟨_, _, _, first, later, second⟩, rfl⟩
    | redeclared here outside kind again =>
      exact .inl ⟨_, _, here, outside, .inr (.inr (.inr (.inr ⟨kind, _, again, rfl⟩)))⟩

end Node

/-! ## The first offence -/

theorem earliest_eq_none_iff (os : List Offence) : earliest os = none ↔ os = [] := by
  cases os with
  | nil => simp [earliest]
  | cons o rest =>
    rw [earliest]
    cases earliest rest with
    | none => simp
    | some p =>
      by_cases h : p.node.start.byte < o.node.start.byte <;> simp [h]

/-- The earliest of the offences is one of them, and none starts before it. -/
theorem earliest_spec {os : List Offence} {o : Offence} (h : earliest os = some o) :
    o ∈ os ∧ ∀ p ∈ os, o.node.start.byte ≤ p.node.start.byte := by
  induction os generalizing o with
  | nil => simp [earliest] at h
  | cons a rest ih =>
    rw [earliest] at h
    cases hrest : earliest rest with
    | none =>
      -- Nothing comes behind the first offence.
      rw [hrest] at h
      cases h
      rw [(earliest_eq_none_iff rest).mp hrest]
      simp
    | some b =>
      obtain ⟨hmem, hle⟩ := ih hrest
      simp only [hrest] at h
      split at h
      · cases h
        refine ⟨List.mem_cons_of_mem _ hmem, fun p hp => ?_⟩
        rcases List.mem_cons.mp hp with rfl | hp
        · omega
        · exact hle p hp
      · cases h
        refine ⟨List.mem_cons_self, fun p hp => ?_⟩
        rcases List.mem_cons.mp hp with rfl | hp
        · exact Nat.le_refl _
        · have := hle p hp
          omega

/-- **A tree is refused iff a node offends**, and then for an offending node that none other
starts before, with the line and the column where it starts. -/
theorem refused_for_first_offence (root : Node) :
    (root.refusal? = none ↔ ∀ o, ¬ root.Offends o)
      ∧ ∀ r, root.refusal? = some r → ∃ o, root.Offends o
        ∧ (∀ p, root.Offends p → o.node.start.byte ≤ p.node.start.byte)
        ∧ r = .violation o.violation o.node.start.line o.node.start.column := by
  constructor
  · rw [Node.refusal?, Option.map_eq_none_iff, Node.firstOffence, earliest_eq_none_iff,
      List.eq_nil_iff_forall_not_mem]
    simp only [Node.mem_offences_iff]
  · intro r h
    obtain ⟨o, ho, rfl⟩ := Option.map_eq_some_iff.mp h
    obtain ⟨hmem, hle⟩ := earliest_spec ho
    exact ⟨o, (Node.mem_offences_iff root o).mp hmem,
      fun p hp => hle p ((Node.mem_offences_iff root p).mpr hp), rfl⟩

end BlockAuthoring.Script
