import BlockAuthoring.Proofs.Script.Access

/-!
# The shape of a script's tree

What the grammar promises about the trees that it makes, as far as declarations depend on it: what
a declarator declares is a name or a pattern, in which members may stand, a `switch` is made of cases,
and a list of imports of specifiers.
-/

namespace BlockAuthoring.Script.Node

/-- Something is promised about the children of these nodes. -/
@[reducible] def isShaped : Kind → Bool
  | .variableDeclarator | .switchBody | .namedImports => true
  | _ => false

/-- What the children of a node of this kind are. -/
def Shape (kind : Kind) (children : List Node) : Prop :=
  match kind with
  | .variableDeclarator =>
    ∀ c, children.find? (·.role == .name) = some c → c.PatternOf fun c => ∃ b : Binder, b.declared = c
  | .switchBody => ∀ c ∈ children, c.kind = .switchCase ∨ c.kind = .switchDefault
  | .namedImports => ∀ c ∈ children, c.kind = .importSpecifier
  | _ => True

@[simp] theorem shape_of_not_isShaped {kind : Kind} (h : isShaped kind = false)
    (children : List Node) : Shape kind children := by
  unfold Shape
  split
  case h_1 => cases h
  case h_2 => cases h
  case h_3 => cases h
  case h_4 => trivial

@[simp] theorem shape_nil (kind : Kind) : Shape kind [] := by
  unfold Shape
  split <;> simp

@[simp] theorem shape_switchBody {children : List Node} : Shape .switchBody children ↔
    ∀ c ∈ children, c.kind = .switchCase ∨ c.kind = .switchDefault :=
  Iff.rfl

@[simp] theorem shape_namedImports {children : List Node} :
    Shape .namedImports children ↔ ∀ c ∈ children, c.kind = .importSpecifier :=
  Iff.rfl

/-- All nodes of the tree have the shape of their kind. -/
inductive WellShaped : Node → Prop where
  | mk {n : Node} (here : Shape n.kind n.children) (below : ∀ c ∈ n.children, WellShaped c) :
      WellShaped n

theorem wellShaped_iff {n : Node} :
    n.WellShaped ↔ Shape n.kind n.children ∧ ∀ c ∈ n.children, c.WellShaped := by
  constructor
  · rintro ⟨here, below⟩
    exact ⟨here, below⟩
  · rintro ⟨here, below⟩
    exact .mk here below

theorem WellShaped.of_mem {n c : Node} (h : n.WellShaped) (hc : c ∈ n.children) : c.WellShaped :=
  (wellShaped_iff.mp h).2 c hc

theorem wellShaped_of_leaf {n : Node} (h : n.children = []) : n.WellShaped :=
  .mk (h ▸ shape_nil n.kind) (by simp [h])

/-! ## Relabelled and built nodes -/

section Built

variable {n : Node} {kind : Kind} {role : Role} {start stop : Position}
  {text : List Char} {children : List Node}

@[simp] theorem wellShaped_withRole : (n.withRole role).WellShaped ↔ n.WellShaped := by
  rw [wellShaped_iff, wellShaped_iff]
  rfl

@[simp] theorem wellShaped_withKind (h : n.children = []) : (n.withKind kind).WellShaped :=
  wellShaped_of_leaf h

theorem WellShaped.withKind (h : n.WellShaped) (hkind : isShaped kind = false) :
    (n.withKind kind).WellShaped :=
  .mk (shape_of_not_isShaped hkind _) fun _ hc => h.of_mem hc

@[simp] theorem wellShaped_mk : (Node.mk kind role start stop text children).WellShaped ↔
    Shape kind children ∧ ∀ c ∈ children, c.WellShaped :=
  wellShaped_iff

@[simp high] theorem wellShaped_mk_nil : (Node.mk kind role start stop text []).WellShaped :=
  wellShaped_of_leaf rfl

@[simp] theorem shape_declarator (h : n.PatternOf IsDeclared) :
    Shape .variableDeclarator (n.withRole .name :: children) := by
  intro c hc
  obtain rfl : n.withRole .name = c := Option.some.inj hc
  exact ⟨isPattern_withRole.mpr h.1, h.2.imp_right fun hmore => hmore.withRole .name⟩

end Built

end BlockAuthoring.Script.Node
