import BlockAuthoring.Proofs.Script.Declaring

/-!
# Names and patterns of a declaration

What a declaration binds names with, as syntax of its own: a name, or a pattern of names, keys,
default values and what is left over, nested to any depth. Default values and keys are trees of any
kind. `Binder.boundNames` reads the bound names off the syntax, and `Binder.tree` says which tree
stands for it, so that what is found in a tree can be compared with what is bound
(`Binder.namesFound_declared`).
-/

namespace BlockAuthoring.Script

/-- A word of a script at its place. -/
structure Word where
  start : Position
  stop : Position
  text : List Char
  deriving DecidableEq, Repr

/-- The leaf of a tree that stands for a word. -/
def Word.leaf (kind : Kind) (w : Word) : Node := ⟨kind, .plain, w.start, w.stop, w.text, []⟩

/-- A default value, and where the part of a pattern that has it starts and stops. -/
structure Default where
  start : Position
  stop : Position
  value : Node
  deriving Repr

mutual

/-- A name, or a pattern that takes a value apart. -/
inductive Binder where
  | name (word : Word)
  | object (start stop : Position) (members : List Member)
  | array (start stop : Position) (elements : List Element)

/-- A member of an object pattern. -/
inductive Member where
  /-- A member that is bound under its own name. -/
  | shorthand (word : Word) (default : Option Default)
  | keyed (start stop : Position) (key : Node) (binder : Binder) (default : Option Default)
  | rest (start stop : Position) (binder : Binder)

/-- An element of an array pattern. -/
inductive Element where
  | hole
  | item (binder : Binder) (default : Option Default)
  | rest (start stop : Position) (binder : Binder)

end

/-! ## Bound names -/

/-- A name that is bound. A shorthand names a member as well. -/
structure BoundName where
  word : Word
  shorthand : Bool
  deriving DecidableEq, Repr

mutual

/-- The names that are bound, one for each time that one is bound, in the order of the source. Keys
and default values bind none. -/
def Binder.boundNames : Binder → List BoundName
  | .name word => [⟨word, false⟩]
  | .object _ _ members => Member.allBoundNames members
  | .array _ _ elements => Element.allBoundNames elements

/-- The names that a member binds. -/
def Member.boundNames : Member → List BoundName
  | .shorthand word _ => [⟨word, true⟩]
  | .keyed _ _ _ binder _ => binder.boundNames
  | .rest _ _ binder => binder.boundNames

/-- The names that members bind, one member after the other. -/
def Member.allBoundNames : List Member → List BoundName
  | [] => []
  | m :: rest => m.boundNames ++ Member.allBoundNames rest

/-- The names that an element binds. -/
def Element.boundNames : Element → List BoundName
  | .hole => []
  | .item binder _ => binder.boundNames
  | .rest _ _ binder => binder.boundNames

/-- The names that elements bind, one element after the other. -/
def Element.allBoundNames : List Element → List BoundName
  | [] => []
  | e :: rest => e.boundNames ++ Element.allBoundNames rest

end

/-! ## Trees -/

/-- The tree of a part with a default value, if it has one. -/
def Node.withDefault (kind : Kind) (n : Node) : Option Default → Node
  | none => n
  | some d => ⟨kind, .plain, d.start, d.stop, [], [n.withRole .left, d.value.withRole .right]⟩

mutual

/-- The tree of a binder inside a pattern, where `undefined` is no identifier. -/
def Binder.tree : Binder → Node
  | .name word =>
    word.leaf (if word.text = "undefined".toList then .undefinedValue else .identifier)
  | .object start stop members => ⟨.objectPattern, .plain, start, stop, [], Member.trees members⟩
  | .array start stop elements => ⟨.arrayPattern, .plain, start, stop, [], Element.trees elements⟩

/-- The tree of a member. -/
def Member.tree : Member → Node
  | .shorthand word default =>
    (word.leaf .shorthandPattern).withDefault .objectAssignmentPattern default
  | .keyed start stop key binder default =>
    ⟨.pairPattern, .plain, start, stop, [],
      [key.withRole .key, (binder.tree.withDefault .assignmentPattern default).withRole .value]⟩
  | .rest start stop binder => ⟨.restPattern, .plain, start, stop, [], [binder.tree]⟩

/-- The trees of members. -/
def Member.trees : List Member → List Node
  | [] => []
  | m :: rest => m.tree :: Member.trees rest

/-- The tree of an element. A hole has none. -/
def Element.tree? : Element → Option Node
  | .hole => none
  | .item binder default => some (binder.tree.withDefault .assignmentPattern default)
  | .rest start stop binder => some ⟨.restPattern, .plain, start, stop, [], [binder.tree]⟩

/-- The trees of elements. -/
def Element.trees : List Element → List Node
  | [] => []
  | e :: rest => e.tree?.toList ++ Element.trees rest

end

/-- The tree of a binder as what a declarator declares. A name without a pattern around it is an
identifier, whatever it reads. -/
def Binder.declared : Binder → Node
  | .name word => (word.leaf .identifier).withRole .name
  | binder => binder.tree.withRole .name

/-! ## Names in trees -/

/-- The name that a node stands for. -/
def BoundName.ofNode (n : Node) : BoundName :=
  ⟨⟨n.start, n.stop, n.text⟩, n.kind == .shorthandPattern⟩

/-- The names that are found in a tree. -/
def Node.namesFound (n : Node) : List BoundName := n.bindingNames.map BoundName.ofNode

/-- The name is found in a pattern: of the names that read `undefined` only the shorthands are. -/
def BoundName.isFound (b : BoundName) : Bool := b.shorthand || b.word.text != "undefined".toList

namespace Node

theorem namesFound_eq (n : Node) :
    n.namesFound = match n.kind with
      | .identifier | .shorthandPattern => [.ofNode n]
      | .assignmentPattern | .objectAssignmentPattern => (n.child? .left).elim [] namesFound
      | .pairPattern => (n.child? .value).elim [] namesFound
      | _ => n.children.flatMap namesFound := by
  have helim (child : Option Node) :
      (child.elim [] bindingNames).map BoundName.ofNode = child.elim [] namesFound := by
    cases child <;> rfl
  have hflat (children : List Node) :
      (children.flatMap bindingNames).map BoundName.ofNode = children.flatMap namesFound :=
    List.map_flatMap ..
  rw [namesFound, bindingNames_eq]
  split <;> simp [*]

@[simp] theorem namesFound_withRole (n : Node) (role : Role) :
    (n.withRole role).namesFound = n.namesFound := by
  rw [namesFound_eq, namesFound_eq n]
  rfl

@[simp] theorem namesFound_withDefault {kind : Kind}
    (hkind : kind = .assignmentPattern ∨ kind = .objectAssignmentPattern) (n : Node)
    (default : Option Default) : (n.withDefault kind default).namesFound = n.namesFound := by
  cases default with
  | none => rfl
  | some d =>
    have hleft : ((n.withDefault kind (some d)).child? .left) = some (n.withRole .left) := rfl
    rw [namesFound_eq, hleft]
    rcases hkind with rfl | rfl <;> exact namesFound_withRole n .left

end Node

theorem Word.namesFound_identifier (w : Word) :
    (w.leaf .identifier).namesFound = [⟨w, false⟩] := rfl

theorem Word.namesFound_undefined (w : Word) : (w.leaf .undefinedValue).namesFound = [] := rfl

mutual

theorem Binder.namesFound_tree (t : Binder) :
    t.tree.namesFound = t.boundNames.filter BoundName.isFound := by
  cases t with
  | name word =>
    rw [Binder.tree, Binder.boundNames]
    by_cases hword : word.text = "undefined".toList
    · have hfound : BoundName.isFound ⟨word, false⟩ = false := by simp [BoundName.isFound, hword]
      rw [if_pos hword, Word.namesFound_undefined, List.filter_cons_of_neg (by simp [hfound])]
      rfl
    · have hfound : BoundName.isFound ⟨word, false⟩ = true := by
        simpa [BoundName.isFound] using hword
      rw [if_neg hword, Word.namesFound_identifier, List.filter_cons_of_pos hfound]
      rfl
  | object start stop members =>
    rw [Binder.tree, Node.namesFound_eq, Binder.boundNames]
    exact Member.namesFound_trees members
  | array start stop elements =>
    rw [Binder.tree, Node.namesFound_eq, Binder.boundNames]
    exact Element.namesFound_trees elements

theorem Member.namesFound_tree (m : Member) :
    m.tree.namesFound = m.boundNames.filter BoundName.isFound := by
  cases m with
  | shorthand word default =>
    rw [Member.tree, Node.namesFound_withDefault (.inr rfl)]
    rfl
  | keyed start stop key binder default =>
    have hvalue : (Member.keyed start stop key binder default).tree.child? .value
        = some ((binder.tree.withDefault .assignmentPattern default).withRole .value) := by
      rw [Member.tree]
      rfl
    rw [Node.namesFound_eq, hvalue]
    simp only [Member.tree, Option.elim_some, Node.namesFound_withRole,
      Node.namesFound_withDefault (.inl rfl)]
    exact Binder.namesFound_tree binder
  | rest start stop binder =>
    rw [Member.tree, Node.namesFound_eq, Member.boundNames, ← Binder.namesFound_tree binder]
    exact List.flatMap_singleton ..

theorem Member.namesFound_trees (members : List Member) :
    (Member.trees members).flatMap Node.namesFound
      = (Member.allBoundNames members).filter BoundName.isFound := by
  cases members with
  | nil => rfl
  | cons m rest =>
    rw [Member.trees, Member.allBoundNames, List.flatMap_cons, List.filter_append,
      Member.namesFound_tree m, Member.namesFound_trees rest]

theorem Element.namesFound_tree? (e : Element) :
    e.tree?.toList.flatMap Node.namesFound = e.boundNames.filter BoundName.isFound := by
  cases e with
  | hole => rfl
  | item binder default =>
    rw [Element.tree?, Element.boundNames, ← Binder.namesFound_tree binder, Option.toList_some,
      List.flatMap_singleton, Node.namesFound_withDefault (.inl rfl)]
  | rest start stop binder =>
    rw [Element.tree?, Element.boundNames, ← Binder.namesFound_tree binder, Option.toList_some,
      List.flatMap_singleton, Node.namesFound_eq]
    exact List.flatMap_singleton ..

theorem Element.namesFound_trees (elements : List Element) :
    (Element.trees elements).flatMap Node.namesFound
      = (Element.allBoundNames elements).filter BoundName.isFound := by
  cases elements with
  | nil => rfl
  | cons e rest =>
    rw [Element.trees, Element.allBoundNames, List.flatMap_append, List.filter_append,
      Element.namesFound_tree? e, Element.namesFound_trees rest]

end

/-- The names that can be found: a name that is declared by itself, whatever it reads, and in a
pattern those that `isFound` does not leave out. -/
def Binder.findable : Binder → List BoundName
  | .name word => [⟨word, false⟩]
  | binder => binder.boundNames.filter BoundName.isFound

theorem Binder.findable_eq_boundNames_iff (b : Binder) : b.findable = b.boundNames ↔
    (∃ word, b = .name word) ∨ ∀ name ∈ b.boundNames, name.isFound = true := by
  cases b with
  | name word => exact ⟨fun _ => .inl ⟨word, rfl⟩, fun _ => rfl⟩
  | object start stop members => simp [findable, List.filter_eq_self]
  | array start stop elements => simp [findable, List.filter_eq_self]

/-- What is found in the tree of what is declared. -/
theorem Binder.namesFound_declared (b : Binder) : b.declared.namesFound = b.findable := by
  cases b with
  | name word => rfl
  | object start stop members =>
    exact (Node.namesFound_withRole _ .name).trans (namesFound_tree (.object start stop members))
  | array start stop elements =>
    exact (Node.namesFound_withRole _ .name).trans (namesFound_tree (.array start stop elements))

/-! ## Which nodes are trees of these parts -/

namespace Node

/-- A name or a pattern that a declarator may declare. -/
def IsDeclared (n : Node) : Prop := ∃ b : Binder, b.declared = n.withRole .name

/-- A name or a pattern inside a pattern. -/
def IsBinder (n : Node) : Prop := ∃ b : Binder, b.tree = n

/-- A name or a pattern inside a pattern, with a default value or without. -/
def IsItem (n : Node) : Prop :=
  ∃ (b : Binder) (default : Option Default), b.tree.withDefault .assignmentPattern default = n

/-- An element of an array pattern. -/
def IsElement (n : Node) : Prop := ∃ e : Element, e.tree? = some n

/-- A member of an object pattern. -/
def IsMember (n : Node) : Prop := ∃ m : Member, m.tree = n

section Built

variable {n left right key value inner : Node} {start stop : Position} {children : List Node}

theorem exists_trees_of_isMember (h : ∀ c ∈ children, c.IsMember) :
    ∃ members, Member.trees members = children := by
  induction children with
  | nil => exact ⟨[], rfl⟩
  | cons c rest ih =>
    obtain ⟨⟨m, rfl⟩, hrest⟩ := List.forall_mem_cons.mp h
    obtain ⟨members, rfl⟩ := ih hrest
    exact ⟨m :: members, rfl⟩

theorem exists_trees_of_isElement (h : ∀ c ∈ children, c.IsElement) :
    ∃ elements, Element.trees elements = children := by
  induction children with
  | nil => exact ⟨[], rfl⟩
  | cons c rest ih =>
    obtain ⟨⟨e, he⟩, hrest⟩ := List.forall_mem_cons.mp h
    obtain ⟨elements, rfl⟩ := ih hrest
    exact ⟨e :: elements, by rw [Element.trees, he]; rfl⟩

theorem isBinder_object (h : ∀ c ∈ children, c.IsMember) :
    (Node.mk .objectPattern .plain start stop [] children).IsBinder := by
  obtain ⟨members, rfl⟩ := exists_trees_of_isMember h
  exact ⟨.object start stop members, rfl⟩

theorem isBinder_array (h : ∀ c ∈ children, c.IsElement) :
    (Node.mk .arrayPattern .plain start stop [] children).IsBinder := by
  obtain ⟨elements, rfl⟩ := exists_trees_of_isElement h
  exact ⟨.array start stop elements, rfl⟩

theorem isItem_of_isBinder (h : n.IsBinder) : n.IsItem := by
  obtain ⟨b, rfl⟩ := h
  exact ⟨b, none, rfl⟩

theorem isItem_mk (h : left.IsBinder) :
    (Node.mk .assignmentPattern .plain start stop []
      [left.withRole .left, right.withRole .right]).IsItem := by
  obtain ⟨b, rfl⟩ := h
  exact ⟨b, some ⟨start, stop, right⟩, rfl⟩

theorem isElement_of_isItem (h : n.IsItem) : n.IsElement := by
  obtain ⟨b, default, rfl⟩ := h
  exact ⟨.item b default, rfl⟩

theorem isElement_rest (h : inner.IsBinder) :
    (Node.mk .restPattern .plain start stop [] [inner]).IsElement := by
  obtain ⟨b, rfl⟩ := h
  exact ⟨.rest start stop b, rfl⟩

theorem isMember_rest (h : inner.IsBinder) :
    (Node.mk .restPattern .plain start stop [] [inner]).IsMember := by
  obtain ⟨b, rfl⟩ := h
  exact ⟨.rest start stop b, rfl⟩

theorem isMember_keyed (h : value.IsItem) :
    (Node.mk .pairPattern .plain start stop []
      [key.withRole .key, value.withRole .value]).IsMember := by
  obtain ⟨b, default, rfl⟩ := h
  exact ⟨.keyed start stop key b default, rfl⟩

/-! ### Leaves, as they are read -/

theorem exists_word (hrole : n.role = .plain) (hchildren : n.children = []) :
    ∃ w : Word, ∀ kind, n.withKind kind = w.leaf kind := by
  obtain ⟨kind, role, start, stop, text, children⟩ := n
  obtain rfl : role = .plain := hrole
  obtain rfl : children = [] := hchildren
  exact ⟨⟨start, stop, text⟩, fun _ => rfl⟩

theorem withKind_eq_self {kind : Kind} (hkind : n.kind = kind) : n.withKind kind = n := by
  cases n
  cases hkind
  rfl

/-- Only a name that reads `undefined` has a tree of its own inside a pattern. -/
theorem isDeclared_of_isBinder (h : n.IsBinder) (hkind : n.kind ≠ .undefinedValue) :
    n.IsDeclared := by
  obtain ⟨b, rfl⟩ := h
  refine ⟨b, ?_⟩
  cases b with
  | name word =>
    rw [Binder.tree] at hkind ⊢
    split at hkind
    · exact absurd rfl hkind
    · rename_i hword
      rw [if_neg hword]
      rfl
  | object start stop members => rfl
  | array start stop elements => rfl

theorem isDeclared_of_leaf (hkind : n.kind = .identifier) (hrole : n.role = .plain)
    (hchildren : n.children = []) : n.IsDeclared := by
  obtain ⟨w, hw⟩ := exists_word hrole hchildren
  exact ⟨.name w, by rw [Binder.declared, ← hw, withKind_eq_self hkind]⟩

theorem isBinder_of_leaf (hkind : n.kind = .identifier) (hrole : n.role = .plain)
    (hchildren : n.children = []) :
    (if n.text == "undefined".toList then n.withKind .undefinedValue else n).IsBinder := by
  obtain ⟨w, hw⟩ := exists_word hrole hchildren
  have htext : n.text = w.text := congrArg Node.text (hw n.kind)
  refine ⟨.name w, ?_⟩
  rw [Binder.tree, ← hw, htext]
  split <;> simp_all [withKind_eq_self]

theorem isMember_withKind (hrole : n.role = .plain) (hchildren : n.children = []) :
    (n.withKind .shorthandPattern).IsMember := by
  obtain ⟨w, hw⟩ := exists_word hrole hchildren
  exact ⟨.shorthand w none, by rw [hw]; rfl⟩

theorem isMember_withKind_default (hrole : n.role = .plain) (hchildren : n.children = []) :
    (Node.mk .objectAssignmentPattern .plain start stop []
      [(n.withKind .shorthandPattern).withRole .left, right.withRole .right]).IsMember := by
  obtain ⟨w, hw⟩ := exists_word hrole hchildren
  exact ⟨.shorthand w (some ⟨start, stop, right⟩), by rw [hw]; rfl⟩

end Built

end Node

end BlockAuthoring.Script
