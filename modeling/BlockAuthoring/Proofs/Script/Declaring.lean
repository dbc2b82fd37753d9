import BlockAuthoring.Proofs.Script.DocumentOrder
import BlockAuthoring.Proofs.Script.Redeclaration

/-!
# Where names are declared

Which statements declare which names is said about addresses in the tree, without the lists that are
gathered on the way.
-/

namespace BlockAuthoring.Script.Node

/-! ## Patterns -/

/-- The children in which a declared name or pattern binds names: of a default only the left side, of
a pair only the value, and of a name none. All other patterns bind what their parts do. -/
def BindsThrough (n : Node) (i : Nat) (c : Node) : Prop :=
  match n.kind with
  | .identifier | .shorthandPattern => False
  | .assignmentPattern | .objectAssignmentPattern => n.Plays .left i c
  | .pairPattern => n.Plays .value i c
  | _ => n.children[i]? = some c

/-- At the address in a declared name or pattern stands a name that it binds. -/
inductive BindsAt : Node → Address → Node → Prop where
  | name {n : Node} (h : n.kind = .identifier ∨ n.kind = .shorthandPattern) : BindsAt n [] n
  | through {n c m : Node} {i : Nat} {p : Address} (hc : n.BindsThrough i c) (hm : BindsAt c p m) :
      BindsAt n (i :: p) m

theorem bindsAt_name_iff {n : Node} (h : n.kind = .identifier ∨ n.kind = .shorthandPattern)
    (p : Address) (m : Node) : n.BindsAt p m ↔ p = [] ∧ m = n := by
  constructor
  · rintro (_ | ⟨hc, -⟩)
    · exact ⟨rfl, rfl⟩
    · rcases h with h | h <;> simp [BindsThrough, h] at hc
  · rintro ⟨rfl, rfl⟩
    exact .name h

theorem bindsAt_through_iff {n : Node} (h : ¬ (n.kind = .identifier ∨ n.kind = .shorthandPattern))
    (p : Address) (m : Node) :
    n.BindsAt p m ↔ ∃ i c q, p = i :: q ∧ n.BindsThrough i c ∧ c.BindsAt q m := by
  constructor
  · rintro (h' | ⟨hc, hm⟩)
    · exact absurd h' h
    · exact ⟨_, _, _, rfl, hc, hm⟩
  · rintro ⟨i, c, q, rfl, hc, hm⟩
    exact .through hc hm

theorem firstIn_eq (role : Role) (children : List Node) :
    bindingNames.firstIn role children
      = (children.find? (·.role == role)).elim [] bindingNames := by
  induction children with
  | nil => rfl
  | cons c rest ih =>
    rw [bindingNames.firstIn, List.find?_cons, ih]
    cases c.role == role <;> rfl

theorem inAll_eq (children : List Node) :
    bindingNames.inAll children = children.flatMap bindingNames := by
  induction children with
  | nil => rfl
  | cons c rest ih => rw [bindingNames.inAll, List.flatMap_cons, ih]

theorem bindingNames_eq (n : Node) :
    n.bindingNames = match n.kind with
      | .identifier | .shorthandPattern => [n]
      | .assignmentPattern | .objectAssignmentPattern => (n.child? .left).elim [] bindingNames
      | .pairPattern => (n.child? .value).elim [] bindingNames
      | _ => n.children.flatMap bindingNames := by
  unfold bindingNames
  split <;> simp_all [firstIn_eq, inAll_eq, child?]

theorem bindingNames_inOrder (n : Node) : InOrder n.BindsAt n.bindingNames := by
  induction n using ind with
  | h n ih =>
    rw [bindingNames_eq]
    split
    case h_1 hkind =>
      exact (InOrder.root n).congr fun p m => (bindsAt_name_iff (.inl hkind) p m).symm
    case h_2 hkind =>
      exact (InOrder.root n).congr fun p m => (bindsAt_name_iff (.inr hkind) p m).symm
    case h_3 hkind =>
      refine (InOrder.first ih).congr fun p m => ?_
      simp [bindsAt_through_iff, BindsThrough, hkind]
    case h_4 hkind =>
      refine (InOrder.first ih).congr fun p m => ?_
      simp [bindsAt_through_iff, BindsThrough, hkind]
    case h_5 hkind =>
      refine (InOrder.first ih).congr fun p m => ?_
      simp [bindsAt_through_iff, BindsThrough, hkind]
    case h_6 hname hshorthand hdefault hobject hpair =>
      have hthrough : ∀ i c, n.BindsThrough i c ↔ n.children[i]? = some c := by
        intro i c
        unfold BindsThrough
        split <;> simp_all
      refine (InOrder.children ih).congr fun p m => ?_
      rw [bindsAt_through_iff (not_or.mpr ⟨hname, hshorthand⟩)]
      simp only [hthrough]

/-! ## Imports -/

/-- The child of an import specifier that names what is imported here: its alias, or its name if it
has none. -/
def NamesLocally (specifier : Node) (i : Nat) (m : Node) : Prop :=
  specifier.Plays .renamed i m
    ∨ (∀ j c, ¬ specifier.Plays .renamed j c) ∧ specifier.Plays .name i m

theorem NamesLocally.unique {specifier m m' : Node} {i j : Nat} (h : specifier.NamesLocally i m)
    (h' : specifier.NamesLocally j m') : i = j ∧ m = m' := by
  rcases h with h | ⟨hno, h⟩ <;> rcases h' with h' | ⟨hno', h'⟩
  · exact h.unique h'
  · exact absurd h (hno' i m)
  · exact absurd h' (hno j m')
  · exact h.unique h'

theorem localChild_eq_some_iff (specifier m : Node) :
    (specifier.child? .renamed).or (specifier.child? .name) = some m ↔
      ∃ i, specifier.NamesLocally i m := by
  simp only [Option.or_eq_some_iff, child?_eq_some_iff, child?_eq_none_iff, NamesLocally,
    exists_or, exists_and_left]

/-- At the address in a part of an import clause stands a name that it brings in. -/
inductive PartImportsAt (part : Node) : Address → Node → Prop where
  | itself (h : part.kind = .identifier) : PartImportsAt part [] part
  | whole {i : Nat} {m : Node} (h : part.kind = .namespaceImport) (hm : part.children[i]? = some m)
      (hname : m.kind = .identifier) : PartImportsAt part [i] m
  | named {i j : Nat} {specifier m : Node} (h : part.kind = .namedImports)
      (hs : part.children[i]? = some specifier) (hm : specifier.NamesLocally j m)
      (hname : m.kind = .identifier) : PartImportsAt part [i, j] m

/-- At the address in an import statement stands a name that it brings in. -/
inductive ImportsAt (statement : Node) : Address → Node → Prop where
  | clause {i j : Nat} {clause part m : Node} {p : Address}
      (hc : statement.children[i]? = some clause) (h : clause.kind = .importClause)
      (hpart : clause.children[j]? = some part) (hm : part.PartImportsAt p m) :
      ImportsAt statement (i :: j :: p) m

theorem importedName_inOrder (specifier : Node) :
    InOrder (fun p m => ∃ i, p = [i] ∧ specifier.NamesLocally i m ∧ m.kind = .identifier)
      specifier.importedName.toList := by
  unfold importedName
  cases hlocal : (specifier.child? .renamed).or (specifier.child? .name) with
  | none =>
    refine .none ?_
    rintro p m ⟨i, -, hm, -⟩
    rw [(localChild_eq_some_iff specifier m).mpr ⟨i, hm⟩] at hlocal
    cases hlocal
  | some c =>
    obtain ⟨i, hc⟩ := (localChild_eq_some_iff specifier c).mp hlocal
    by_cases hkind : c.kind = .identifier
    · simp only [hkind, beq_self_eq_true, if_true, Option.toList_some]
      refine ((InOrder.root c).child i).congr fun p m => ?_
      constructor
      · rintro ⟨-, rfl, rfl, rfl⟩
        exact ⟨i, rfl, hc, hkind⟩
      · rintro ⟨j, rfl, hm, -⟩
        obtain ⟨rfl, rfl⟩ := hc.unique hm
        exact ⟨[], rfl, rfl, rfl⟩
    · simp only [beq_iff_eq, hkind, if_false, Option.toList_none]
      refine .none ?_
      rintro p m ⟨j, -, hm, hname⟩
      obtain ⟨-, rfl⟩ := hc.unique hm
      exact hkind hname

theorem importPartNames_inOrder (part : Node) :
    InOrder part.PartImportsAt part.importPartNames := by
  unfold importPartNames
  split
  case h_1 hkind =>
    refine (InOrder.root part).congr fun p m => ?_
    constructor
    · rintro ⟨rfl, rfl⟩
      exact .itself hkind
    · intro h
      cases h <;> simp_all
  case h_2 hkind =>
    rw [← List.flatMap_singleton' (part.children.filter _)]
    refine (InOrder.childrenWhere fun c _ _ => InOrder.root c).congr fun p m => ?_
    constructor
    · rintro ⟨i, c, _, rfl, hc, hname, rfl, rfl⟩
      exact .whole hkind hc (by simpa using hname)
    · intro h
      cases h <;> simp_all
  case h_3 hkind =>
    rw [List.filterMap_eq_flatMap_toList]
    refine (InOrder.children fun s _ => importedName_inOrder s).congr fun p m => ?_
    constructor
    · rintro ⟨i, s, _, rfl, hs, j, rfl, hm, hname⟩
      exact .named hkind hs hm hname
    · intro h
      cases h <;> simp_all
  case h_4 hname hspace hnamed =>
    refine .none fun p m h => ?_
    cases h <;> simp_all

theorem importNames_inOrder (statement : Node) :
    InOrder statement.ImportsAt statement.importNames := by
  refine (InOrder.childrenWhere fun clause _ _ =>
    InOrder.children fun part _ => importPartNames_inOrder part).congr fun p m => ?_
  constructor
  · rintro ⟨i, clause, _, rfl, hc, hkind, j, part, q, rfl, hpart, hm⟩
    exact .clause hc (by simpa using hkind) hpart hm
  · intro h
    cases h with
    | clause hc hkind hpart hm =>
      exact ⟨_, _, _, rfl, hc, by simpa using hkind, _, _, _, rfl, hpart, hm⟩

/-! ## Declarations -/

/-- At the address in a declaration stands a name that one of its declarators binds. -/
inductive VariableAt (n : Node) : Address → Node → Prop where
  | declarator {i j : Nat} {d c m : Node} {p : Address} (hd : n.children[i]? = some d)
      (hkind : d.kind = .variableDeclarator) (hc : d.Plays .name j c) (hm : c.BindsAt p m) :
      VariableAt n (i :: j :: p) m

/-- At the address in a declaration stands a name that it declares. -/
inductive NamesAt (n : Node) : Address → Declared → Prop where
  | lexical {m : Node} {p : Address} (h : n.kind = .lexicalDeclaration) (hm : n.VariableAt p m) :
      NamesAt n p ⟨m, true⟩
  | variable {m : Node} {p : Address} (h : n.kind = .variableDeclaration) (hm : n.VariableAt p m) :
      NamesAt n p ⟨m, false⟩
  | class {i : Nat} {c : Node} (h : n.kind = .classDeclaration) (hc : n.Plays .name i c) :
      NamesAt n [i] ⟨c, true⟩
  | function {i : Nat} {c : Node}
      (h : n.kind = .functionDeclaration ∨ n.kind = .generatorFunctionDeclaration)
      (hc : n.Plays .name i c) : NamesAt n [i] ⟨c, false⟩
  | import {m : Node} {p : Address} (h : n.kind = .importStatement) (hm : n.ImportsAt p m) :
      NamesAt n p ⟨m, true⟩

theorem variables_inOrder (n : Node) (lexical : Bool) :
    InOrder (fun p (d : Declared) => ∃ m, n.VariableAt p m ∧ d = ⟨m, lexical⟩)
      ((n.children.filter (·.kind == .variableDeclarator)).flatMap fun d =>
        ((d.child? .name).elim [] bindingNames).map (⟨·, lexical⟩)) := by
  refine (InOrder.childrenWhere fun d _ _ =>
    (InOrder.first fun c _ => bindingNames_inOrder c).map _).congr fun p d => ?_
  constructor
  · rintro ⟨i, d, _, rfl, hd, hkind, m, ⟨j, c, q, rfl, hc, hm⟩, rfl⟩
    exact ⟨m, .declarator hd (by simpa using hkind) hc hm, rfl⟩
  · rintro ⟨m, hm, rfl⟩
    cases hm with
    | declarator hd hkind hc hm =>
      exact ⟨_, _, _, rfl, hd, by simpa using hkind, m, ⟨_, _, _, rfl, hc, hm⟩, rfl⟩

theorem ownName_inOrder (n : Node) :
    InOrder (fun p c => ∃ i, p = [i] ∧ n.Plays .name i c) (n.child? .name).toList := by
  have helim : (n.child? .name).toList = (n.child? .name).elim [] ([·]) := by
    cases n.child? .name <;> rfl
  rw [helim]
  refine (InOrder.first fun c _ => InOrder.root c).congr fun p c => ?_
  constructor
  · rintro ⟨i, _, _, rfl, hc, rfl, rfl⟩
    exact ⟨i, rfl, hc⟩
  · rintro ⟨i, rfl, hc⟩
    exact ⟨i, c, [], rfl, hc, rfl, rfl⟩

theorem declaresItself_inOrder (n : Node) : InOrder n.NamesAt n.declaresItself := by
  unfold declaresItself
  split
  case h_1 hkind =>
    refine (variables_inOrder n _).congr fun p d => ?_
    constructor
    · rintro ⟨m, hm, rfl⟩
      exact .lexical hkind hm
    · intro h
      cases h <;> simp_all
  case h_2 hkind =>
    refine (variables_inOrder n _).congr fun p d => ?_
    constructor
    · rintro ⟨m, hm, rfl⟩
      exact .variable hkind hm
    · intro h
      cases h <;> simp_all
  case h_3 hkind =>
    refine ((ownName_inOrder n).map _).congr fun p d => ?_
    constructor
    · rintro ⟨c, ⟨i, rfl, hc⟩, rfl⟩
      exact .class hkind hc
    · intro h
      cases h <;> simp_all
  case h_4 hkind =>
    refine ((ownName_inOrder n).map _).congr fun p d => ?_
    constructor
    · rintro ⟨c, ⟨i, rfl, hc⟩, rfl⟩
      exact .function (.inl hkind) hc
    · intro h
      cases h <;> simp_all
  case h_5 hkind =>
    refine ((ownName_inOrder n).map _).congr fun p d => ?_
    constructor
    · rintro ⟨c, ⟨i, rfl, hc⟩, rfl⟩
      exact .function (.inr hkind) hc
    · intro h
      cases h <;> simp_all
  case h_6 hkind =>
    refine ((importNames_inOrder n).map _).congr fun p d => ?_
    constructor
    · rintro ⟨m, hm, rfl⟩
      exact .import hkind hm
    · intro h
      cases h <;> simp_all
  case h_7 =>
    refine .none fun p d h => ?_
    cases h <;> simp_all

/-- A statement that hands the declaration in it through. -/
def isExport : Kind → Bool
  | .exportStatement | .exportDefault => true
  | _ => false

/-- At the address in a statement stands a name that it declares in its scope: itself, or through
the declaration that it exports. -/
inductive DeclaresAt : Node → Address → Declared → Prop where
  | itself {n : Node} {p : Address} {d : Declared} (h : isExport n.kind = false)
      (hd : n.NamesAt p d) : DeclaresAt n p d
  | exported {n c : Node} {i : Nat} {p : Address} {d : Declared} (h : isExport n.kind = true)
      (hc : n.Plays .declaration i c) (hd : DeclaresAt c p d) : DeclaresAt n (i :: p) d

theorem exported_eq (children : List Node) :
    declares.exported children
      = (children.find? (·.role == .declaration)).elim [] declares := by
  induction children with
  | nil => rfl
  | cons c rest ih =>
    rw [declares.exported, List.find?_cons, ih]
    cases c.role == .declaration <;> rfl

theorem declares_eq (n : Node) :
    n.declares = if isExport n.kind then (n.child? .declaration).elim [] declares
      else n.declaresItself := by
  unfold declares
  split
  · simp [isExport, exported_eq, child?]
  · simp [isExport, exported_eq, child?]
  · rename_i hstatement hdefault
    have hkind : isExport n.kind = false := by
      unfold isExport
      split
      · exact absurd (by cases n; simp_all) (hstatement n.role n.start n.stop n.text n.children)
      · exact absurd (by cases n; simp_all) (hdefault n.role n.start n.stop n.text n.children)
      · rfl
    rw [hkind]
    rfl

theorem declares_inOrder (n : Node) : InOrder n.DeclaresAt n.declares := by
  induction n using ind with
  | h n ih =>
    rw [declares_eq]
    cases hkind : isExport n.kind with
    | true =>
      refine (InOrder.first ih).congr fun p d => ?_
      constructor
      · rintro ⟨i, c, q, rfl, hc, hd⟩
        exact .exported hkind hc hd
      · intro h
        cases h with
        | itself h hd => rw [hkind] at h; cases h
        | exported h hc hd => exact ⟨_, _, _, rfl, hc, hd⟩
    | false =>
      refine (declaresItself_inOrder n).congr fun p d => ?_
      constructor
      · exact .itself hkind
      · intro h
        cases h with
        | itself h hd => exact hd
        | exported h hc hd => rw [hkind] at h; cases h

/-! ## Scopes -/

/-- At the address in a scope stands a name that one of its statements declares. The statements of a
`switch` stand in its cases. -/
inductive ScopeDeclaresAt (scope : Node) : Address → Declared → Prop where
  | statement {i : Nat} {s : Node} {p : Address} {d : Declared} (h : scope.kind ≠ .switchBody)
      (hs : scope.children[i]? = some s) (hd : s.DeclaresAt p d) : ScopeDeclaresAt scope (i :: p) d
  | inCase {i j : Nat} {c s : Node} {p : Address} {d : Declared} (h : scope.kind = .switchBody)
      (hc : scope.children[i]? = some c) (hs : c.children[j]? = some s) (hd : s.DeclaresAt p d) :
      ScopeDeclaresAt scope (i :: j :: p) d

theorem scopeDeclarations_inOrder (scope : Node) :
    InOrder scope.ScopeDeclaresAt scope.scopeDeclarations := by
  unfold scopeDeclarations scopeStatements
  by_cases hkind : scope.kind = .switchBody
  · simp only [hkind, beq_self_eq_true, if_true, List.flatMap_assoc]
    refine (InOrder.children fun c _ => InOrder.children fun s _ =>
      declares_inOrder s).congr fun p d => ?_
    constructor
    · rintro ⟨i, c, _, rfl, hc, j, s, q, rfl, hs, hd⟩
      exact .inCase hkind hc hs hd
    · intro h
      cases h with
      | statement h hs hd => exact absurd hkind h
      | inCase h hc hs hd => exact ⟨_, _, _, rfl, hc, _, _, _, rfl, hs, hd⟩
  · simp only [beq_iff_eq, hkind, if_false]
    refine (InOrder.children fun s _ => declares_inOrder s).congr fun p d => ?_
    constructor
    · rintro ⟨i, s, q, rfl, hs, hd⟩
      exact .statement hkind hs hd
    · intro h
      cases h with
      | statement h hs hd => exact ⟨_, _, _, rfl, hs, hd⟩
      | inCase h hc hs hd => exact absurd h hkind

end BlockAuthoring.Script.Node
