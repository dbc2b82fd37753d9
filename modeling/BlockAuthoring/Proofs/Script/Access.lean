import BlockAuthoring.Proofs.Script.Pattern

/-!
# Patterns with members

The grammar has one rule for what a declaration binds and for what an assignment assigns to. So in
the pattern of a declaration a member may take the place of a name, and what is left over may have a
default value, as may a pattern in an object that no key leads to, though a declaration binds none of
these. `IsPattern` says what is read all the same, and `HoldsMore` which of it is no tree of a
`Binder`.
-/

namespace BlockAuthoring.Script

/-- A member of a value, named or computed. -/
@[reducible] def Kind.isAccess : Kind → Bool
  | memberExpression | subscriptExpression => true
  | _ => false

theorem Kind.isAccess_iff {kind : Kind} :
    kind.isAccess = true ↔ kind = .memberExpression ∨ kind = .subscriptExpression := by
  cases kind <;> simp

namespace Node

/-- The kinds of names and patterns, and of their parts. -/
@[reducible] def isPatternKind : Kind → Bool
  | .identifier | .undefinedValue | .shorthandPattern
  | .objectPattern | .arrayPattern | .pairPattern | .restPattern
  | .objectAssignmentPattern | .assignmentPattern => true
  | _ => false

/-- A name, a member or a pattern: wherever a pattern binds names, there are names, members and
patterns again. -/
inductive IsPattern : Node → Prop where
  | access {n : Node} (kind : n.kind.isAccess = true) : IsPattern n
  | mk {n : Node} (kind : isPatternKind n.kind = true)
      (parts : ∀ i c, n.BindsThrough i c → IsPattern c) : IsPattern n

/-- The pattern holds more than a declaration binds: a member, or a default value of what is left
over or of a pattern in an object that no key leads to. -/
inductive HoldsMore : Node → Prop where
  | access {n : Node} (kind : n.kind.isAccess = true) : HoldsMore n
  | defaultedRest {n c : Node} {i : Nat} (kind : n.kind = .assignmentPattern)
      (left : n.BindsThrough i c) (rest : c.kind = .restPattern) : HoldsMore n
  | keyless {n c : Node} {i : Nat} (kind : n.kind = .objectAssignmentPattern)
      (left : n.BindsThrough i c) (pattern : c.kind ≠ .shorthandPattern) : HoldsMore n
  | part {n c : Node} {i : Nat} (kind : isPatternKind n.kind = true) (hc : n.BindsThrough i c)
      (h : HoldsMore c) : HoldsMore n

/-- The node is a pattern, and a `P` if the pattern holds no more than a declaration binds. -/
def PatternOf (P : Node → Prop) (n : Node) : Prop := n.IsPattern ∧ (P n ∨ n.HoldsMore)

theorem PatternOf.imp {P Q : Node → Prop} {n : Node} (h : n.PatternOf P) (himp : P n → Q n) :
    n.PatternOf Q :=
  ⟨h.1, h.2.imp_left himp⟩

theorem BindsThrough.getElem? {n c : Node} {i : Nat} (h : n.BindsThrough i c) :
    n.children[i]? = some c := by
  unfold BindsThrough at h
  split at h
  · cases h
  · cases h
  · exact h.1
  · exact h.1
  · exact h.1
  · exact h

/-! ## Built nodes -/

section Built

variable {n left right key value inner : Node} {kind : Kind} {role : Role} {start stop : Position}
  {text : List Char} {children : List Node} {P Q : Node → Prop}

@[simp] theorem isPattern_withRole : (n.withRole role).IsPattern ↔ n.IsPattern := by
  constructor
  · rintro (kind | ⟨kind, parts⟩)
    · exact .access kind
    · exact .mk kind parts
  · rintro (kind | ⟨kind, parts⟩)
    · exact .access kind
    · exact .mk kind parts

theorem HoldsMore.withRole (h : n.HoldsMore) (role : Role) : (n.withRole role).HoldsMore := by
  cases h with
  | access kind => exact .access kind
  | defaultedRest kind left rest => exact .defaultedRest kind left rest
  | keyless kind left pattern => exact .keyless kind left pattern
  | part kind hc h => exact .part kind hc h

@[simp] theorem holdsMore_withRole : (n.withRole role).HoldsMore ↔ n.HoldsMore := by
  constructor
  · intro h
    cases n
    exact h.withRole _
  · exact fun h => h.withRole role

/-- A pattern with a default value binds what the pattern binds. -/
theorem bindsThrough_left
    (hkind : kind = .assignmentPattern ∨ kind = .objectAssignmentPattern) (c : Node) :
    (∃ i, BindsThrough (mk kind role start stop text
      [left.withRole .left, right.withRole .right]) i c) ↔ c = left.withRole .left := by
  have hplays : (∃ i, Plays (mk kind role start stop text
      [left.withRole .left, right.withRole .right]) .left i c) ↔ c = left.withRole .left := by
    rw [← child?_eq_some_iff, @eq_comm _ c]
    exact Option.some_inj
  rcases hkind with rfl | rfl <;> exact hplays

/-- A member of an object pattern binds what its value binds. -/
theorem bindsThrough_value (c : Node) :
    (∃ i, BindsThrough (mk .pairPattern role start stop text
      [key.withRole .key, value.withRole .value]) i c) ↔ c = value.withRole .value := by
  have hplays : (∃ i, Plays (mk .pairPattern role start stop text
      [key.withRole .key, value.withRole .value]) .value i c) ↔ c = value.withRole .value := by
    rw [← child?_eq_some_iff, @eq_comm _ c]
    exact Option.some_inj
  exact hplays

/-- A pattern is what its parts make of it, unless one of them holds more. -/
theorem patternOf_of_parts (kind : isPatternKind n.kind = true)
    (h : ∀ i c, n.BindsThrough i c → c.PatternOf P)
    (built : (∀ i c, n.BindsThrough i c → P c) → Q n) : n.PatternOf Q := by
  refine ⟨.mk kind fun i c hc => (h i c hc).1, ?_⟩
  by_cases hparts : ∀ i c, n.BindsThrough i c → P c
  · exact .inl (built hparts)
  · simp only [not_forall] at hparts
    obtain ⟨i, c, hc, hno⟩ := hparts
    exact .inr (.part kind hc ((h i c hc).2.resolve_left hno))

theorem patternOf_access (h : n.kind.isAccess = true) : n.PatternOf P := ⟨.access h, .inr (.access h)⟩

theorem isPattern_of_leaf (kind : isPatternKind n.kind = true) (hchildren : n.children = []) :
    n.IsPattern :=
  .mk kind fun i c hc => by simpa [hchildren] using hc.getElem?

theorem patternOf_leaf (kind : isPatternKind n.kind = true) (hchildren : n.children = [])
    (h : P n) : n.PatternOf P :=
  ⟨isPattern_of_leaf kind hchildren, .inl h⟩

theorem patternOf_object (h : ∀ c ∈ children, c.PatternOf IsMember) :
    (mk .objectPattern .plain start stop [] children).PatternOf IsBinder := by
  refine patternOf_of_parts rfl (fun i c hc => h c (List.mem_of_getElem? hc)) fun hparts => ?_
  refine isBinder_object fun c hc => ?_
  obtain ⟨i, hi⟩ := List.mem_iff_getElem?.mp hc
  exact hparts i c hi

theorem patternOf_array (h : ∀ c ∈ children, c.PatternOf IsElement) :
    (mk .arrayPattern .plain start stop [] children).PatternOf IsBinder := by
  refine patternOf_of_parts rfl (fun i c hc => h c (List.mem_of_getElem? hc)) fun hparts => ?_
  refine isBinder_array fun c hc => ?_
  obtain ⟨i, hi⟩ := List.mem_iff_getElem?.mp hc
  exact hparts i c hi

theorem patternOf_default (h : left.PatternOf IsBinder) :
    (mk .assignmentPattern .plain start stop []
      [left.withRole .left, right.withRole .right]).PatternOf IsItem := by
  refine ⟨.mk rfl fun i c hc => ?_, h.2.imp isItem_mk fun hmore => ?_⟩
  · obtain rfl := (bindsThrough_left (.inl rfl) c).mp ⟨i, hc⟩
    exact isPattern_withRole.mpr h.1
  · obtain ⟨i, hleft⟩ := (bindsThrough_left (.inl rfl) _).mpr rfl
    exact .part rfl hleft (hmore.withRole .left)

theorem patternOf_value (h : value.PatternOf IsItem) :
    (mk .pairPattern .plain start stop []
      [key.withRole .key, value.withRole .value]).PatternOf IsMember := by
  refine ⟨.mk rfl fun i c hc => ?_, h.2.imp isMember_keyed fun hmore => ?_⟩
  · obtain rfl := (bindsThrough_value c).mp ⟨i, hc⟩
    exact isPattern_withRole.mpr h.1
  · obtain ⟨i, hvalue⟩ := (bindsThrough_value _).mpr rfl
    exact .part rfl hvalue (hmore.withRole .value)

theorem patternOf_rest (h : inner.PatternOf IsBinder)
    (built : IsBinder inner → Q (mk .restPattern .plain start stop [] [inner])) :
    (mk .restPattern .plain start stop [] [inner]).PatternOf Q := by
  refine patternOf_of_parts (P := IsBinder) rfl (fun i c hc => ?_) fun hparts => ?_
  · obtain rfl : c = inner := List.mem_singleton.mp (List.mem_of_getElem? hc)
    exact h
  · exact built (hparts 0 inner rfl)

/-- A default value of what is left over makes a pattern, but none that a declaration binds. -/
theorem patternOf_defaultedRest {stop' : Position} (h : inner.IsPattern) :
    (mk .assignmentPattern .plain start stop []
      [(mk .restPattern .plain start stop' [] [inner]).withRole .left,
        right.withRole .right]).PatternOf Q := by
  refine ⟨.mk rfl fun i c hc => ?_, .inr ?_⟩
  · obtain rfl := (bindsThrough_left (.inl rfl) c).mp ⟨i, hc⟩
    refine isPattern_withRole.mpr (.mk rfl fun j d hd => ?_)
    obtain rfl : d = inner := List.mem_singleton.mp (List.mem_of_getElem? hd)
    exact h
  · obtain ⟨i, hleft⟩ := (bindsThrough_left (.inl rfl) _).mpr rfl
    exact .defaultedRest rfl hleft rfl

/-- A default value of a pattern that no key leads to is one of a pattern, but of none that a
declaration binds. -/
theorem patternOf_keyless (h : left.IsPattern) (pattern : left.kind ≠ .shorthandPattern) :
    (mk .objectAssignmentPattern .plain start stop []
      [left.withRole .left, right.withRole .right]).PatternOf Q := by
  refine ⟨.mk rfl fun i c hc => ?_, .inr ?_⟩
  · obtain rfl := (bindsThrough_left (.inr rfl) c).mp ⟨i, hc⟩
    exact isPattern_withRole.mpr h
  · obtain ⟨i, hleft⟩ := (bindsThrough_left (.inr rfl) _).mpr rfl
    exact .keyless rfl hleft pattern

theorem patternOf_shorthand_default (hrole : n.role = .plain) (hchildren : n.children = []) :
    (mk .objectAssignmentPattern .plain start stop []
      [(n.withKind .shorthandPattern).withRole .left, right.withRole .right]).PatternOf IsMember := by
  refine ⟨.mk rfl fun i c hc => ?_, .inl (isMember_withKind_default hrole hchildren)⟩
  obtain rfl := (bindsThrough_left (.inr rfl) c).mp ⟨i, hc⟩
  exact isPattern_withRole.mpr (isPattern_of_leaf rfl hchildren)

/-! ## What a declaration binds holds no more -/

/-- The kinds of parts with a default value. -/
def isDefault : Kind → Bool
  | .assignmentPattern | .objectAssignmentPattern => true
  | _ => false

theorem not_holdsMore_of_parts (access : n.kind.isAccess = false)
    (hdefault : isDefault n.kind = false) (h : ∀ i c, n.BindsThrough i c → ¬ c.HoldsMore) :
    ¬ n.HoldsMore := by
  rintro (kind | ⟨kind, -, -⟩ | ⟨kind, -, -⟩ | ⟨-, hc, hmore⟩)
  · rw [access] at kind
    cases kind
  · rw [kind] at hdefault
    cases hdefault
  · rw [kind] at hdefault
    cases hdefault
  · exact h _ _ hc hmore

theorem not_holdsMore_mk (access : kind.isAccess = false) (hdefault : isDefault kind = false)
    (h : ∀ c ∈ children, ¬ c.HoldsMore) :
    ¬ (mk kind role start stop text children).HoldsMore :=
  not_holdsMore_of_parts access hdefault fun _ c hc => h c (List.mem_of_getElem? hc.getElem?)

theorem not_holdsMore_leaf (access : kind.isAccess = false) (hdefault : isDefault kind = false)
    (w : Word) : ¬ (w.leaf kind).HoldsMore :=
  not_holdsMore_mk access hdefault (by simp)

theorem not_holdsMore_rest (h : ¬ inner.HoldsMore) :
    ¬ (mk .restPattern role start stop text [inner]).HoldsMore :=
  not_holdsMore_mk rfl rfl (by simpa using h)

/-- A default value of what may have one is no more than a declaration binds. -/
theorem not_holdsMore_withDefault
    (hkind : kind = .assignmentPattern ∧ n.kind ≠ .restPattern
      ∨ kind = .objectAssignmentPattern ∧ n.kind = .shorthandPattern)
    (h : ¬ n.HoldsMore) (default : Option Default) :
    ¬ (n.withDefault kind default).HoldsMore := by
  cases default with
  | none => exact h
  | some d =>
    have hleft : ∀ i c, (n.withDefault kind (some d)).BindsThrough i c → c = n.withRole .left :=
      fun i c hc => (bindsThrough_left (hkind.imp (·.1) (·.1)) c).mp ⟨i, hc⟩
    rintro (kind | ⟨kind, hc, hrest⟩ | ⟨kind, hc, hpattern⟩ | ⟨-, hc, hmore⟩)
    · rcases hkind with ⟨rfl, -⟩ | ⟨rfl, -⟩ <;> cases kind
    · rcases hkind with ⟨rfl, hno⟩ | ⟨rfl, -⟩
      · rw [hleft _ _ hc] at hrest
        exact hno hrest
      · cases kind
    · rcases hkind with ⟨rfl, -⟩ | ⟨rfl, hshorthand⟩
      · cases kind
      · rw [hleft _ _ hc] at hpattern
        exact hpattern hshorthand
    · rw [hleft _ _ hc, holdsMore_withRole] at hmore
      exact h hmore

end Built

theorem kind_tree_ne_rest (b : Binder) : b.tree.kind ≠ .restPattern := by
  cases b with
  | name word =>
    rw [Binder.tree]
    split <;> exact nofun
  | object start stop members => exact nofun
  | array start stop elements => exact nofun

mutual

theorem not_holdsMore_binder (b : Binder) : ¬ b.tree.HoldsMore := by
  cases b with
  | name word =>
    rw [Binder.tree]
    split <;> exact not_holdsMore_leaf rfl rfl word
  | object start stop members =>
    rw [Binder.tree]
    exact not_holdsMore_mk rfl rfl (not_holdsMore_members members)
  | array start stop elements =>
    rw [Binder.tree]
    exact not_holdsMore_mk rfl rfl (not_holdsMore_elements elements)

theorem not_holdsMore_member (m : Member) : ¬ m.tree.HoldsMore := by
  cases m with
  | shorthand word default =>
    rw [Member.tree]
    have hword : ¬ (word.leaf .shorthandPattern).HoldsMore := not_holdsMore_leaf rfl rfl word
    exact not_holdsMore_withDefault (.inr ⟨rfl, rfl⟩) hword default
  | keyed start stop key binder default =>
    rw [Member.tree]
    refine not_holdsMore_of_parts rfl rfl fun i c hc => ?_
    rw [(bindsThrough_value c).mp ⟨i, hc⟩, holdsMore_withRole]
    exact not_holdsMore_withDefault (.inl ⟨rfl, kind_tree_ne_rest binder⟩)
      (not_holdsMore_binder binder) default
  | rest start stop binder =>
    rw [Member.tree]
    exact not_holdsMore_rest (not_holdsMore_binder binder)

theorem not_holdsMore_members (members : List Member) :
    ∀ c ∈ Member.trees members, ¬ c.HoldsMore := by
  cases members with
  | nil => simp [Member.trees]
  | cons m rest =>
    rw [Member.trees, List.forall_mem_cons]
    exact ⟨not_holdsMore_member m, not_holdsMore_members rest⟩

theorem not_holdsMore_element (e : Element) : ∀ c ∈ e.tree?, ¬ c.HoldsMore := by
  cases e with
  | hole => simp [Element.tree?]
  | item binder default =>
    simpa [Element.tree?] using not_holdsMore_withDefault (.inl ⟨rfl, kind_tree_ne_rest binder⟩)
      (not_holdsMore_binder binder) default
  | rest start stop binder =>
    simpa [Element.tree?] using not_holdsMore_rest (not_holdsMore_binder binder)

theorem not_holdsMore_elements (elements : List Element) :
    ∀ c ∈ Element.trees elements, ¬ c.HoldsMore := by
  cases elements with
  | nil => simp [Element.trees]
  | cons e rest =>
    simp only [Element.trees, List.forall_mem_append, Option.mem_toList]
    exact ⟨not_holdsMore_element e, not_holdsMore_elements rest⟩

end

/-- The tree of a name or a pattern that a declaration binds holds no more. -/
theorem not_holdsMore_declared (b : Binder) : ¬ b.declared.HoldsMore := by
  cases b with
  | name word => exact not_holdsMore_mk rfl rfl (by simp [Word.leaf])
  | object start stop members =>
    exact mt holdsMore_withRole.mp (not_holdsMore_binder (.object start stop members))
  | array start stop elements =>
    exact mt holdsMore_withRole.mp (not_holdsMore_binder (.array start stop elements))

/-! ## Looking for more -/

/-- Whether the pattern holds more than a declaration binds, computed from it. -/
def holdsMore : Node → Bool
  | ⟨.memberExpression, _, _, _, _, _⟩ | ⟨.subscriptExpression, _, _, _, _, _⟩ => true
  | ⟨.assignmentPattern, _, _, _, _, children⟩ =>
    (children.find? (·.role == .left)).any (·.kind == .restPattern) || firstIn .left children
  | ⟨.objectAssignmentPattern, _, _, _, _, children⟩ =>
    (children.find? (·.role == .left)).any (·.kind != .shorthandPattern) || firstIn .left children
  | ⟨.pairPattern, _, _, _, _, children⟩ => firstIn .value children
  | ⟨.objectPattern, _, _, _, _, children⟩ | ⟨.arrayPattern, _, _, _, _, children⟩
  | ⟨.restPattern, _, _, _, _, children⟩ | ⟨.undefinedValue, _, _, _, _, children⟩ =>
    anyIn children
  | _ => false
where
  /-- The first node in the given role holds more. -/
  firstIn (role : Role) : List Node → Bool
    | [] => false
    | n :: rest => if n.role == role then holdsMore n else firstIn role rest
  /-- One of the nodes holds more. -/
  anyIn : List Node → Bool
    | [] => false
    | n :: rest => holdsMore n || anyIn rest

theorem holdsMore_firstIn (role : Role) (children : List Node) :
    holdsMore.firstIn role children = (children.find? (·.role == role)).any holdsMore := by
  induction children with
  | nil => rfl
  | cons c rest ih =>
    rw [holdsMore.firstIn, List.find?_cons, ih]
    cases c.role == role <;> rfl

theorem holdsMore_anyIn (children : List Node) :
    holdsMore.anyIn children = children.any holdsMore := by
  induction children with
  | nil => rfl
  | cons c rest ih => rw [holdsMore.anyIn, List.any_cons, ih]

theorem holdsMore_iff (n : Node) :
    n.HoldsMore ↔ n.kind.isAccess = true
      ∨ n.kind = .assignmentPattern ∧ (∃ i c, n.BindsThrough i c ∧ c.kind = .restPattern)
      ∨ n.kind = .objectAssignmentPattern
        ∧ (∃ i c, n.BindsThrough i c ∧ c.kind ≠ .shorthandPattern)
      ∨ isPatternKind n.kind = true ∧ ∃ i c, n.BindsThrough i c ∧ c.HoldsMore := by
  constructor
  · rintro (kind | ⟨kind, left, rest⟩ | ⟨kind, left, pattern⟩ | ⟨kind, hc, h⟩)
    · exact .inl kind
    · exact .inr (.inl ⟨kind, _, _, left, rest⟩)
    · exact .inr (.inr (.inl ⟨kind, _, _, left, pattern⟩))
    · exact .inr (.inr (.inr ⟨kind, _, _, hc, h⟩))
  · rintro (kind | ⟨kind, i, c, left, rest⟩ | ⟨kind, i, c, left, pattern⟩ | ⟨kind, i, c, hc, h⟩)
    · exact .access kind
    · exact .defaultedRest kind left rest
    · exact .keyless kind left pattern
    · exact .part kind hc h

theorem holdsMore_eq (n : Node) :
    n.holdsMore = match n.kind with
      | .memberExpression | .subscriptExpression => true
      | .assignmentPattern =>
        (n.child? .left).any (·.kind == .restPattern) || (n.child? .left).any holdsMore
      | .objectAssignmentPattern =>
        (n.child? .left).any (·.kind != .shorthandPattern) || (n.child? .left).any holdsMore
      | .pairPattern => (n.child? .value).any holdsMore
      | .objectPattern | .arrayPattern | .restPattern | .undefinedValue => n.children.any holdsMore
      | _ => false := by
  obtain ⟨kind, role, start, stop, text, children⟩ := n
  cases kind <;> simp [holdsMore, holdsMore_firstIn, holdsMore_anyIn, child?]

theorem any_child?_iff (n : Node) (role : Role) (f : Node → Bool) :
    (n.child? role).any f = true ↔ ∃ i c, n.Plays role i c ∧ f c = true := by
  simp only [Option.any_eq_true, child?_eq_some_iff]
  constructor
  · rintro ⟨c, ⟨i, hi⟩, hc⟩
    exact ⟨i, c, hi, hc⟩
  · rintro ⟨i, c, hi, hc⟩
    exact ⟨c, ⟨i, hi⟩, hc⟩

theorem any_children_iff (n : Node) (f : Node → Bool) :
    n.children.any f = true ↔ ∃ i : Nat, ∃ c, n.children[i]? = some c ∧ f c = true := by
  simp only [List.any_eq_true, List.mem_iff_getElem?]
  constructor
  · rintro ⟨c, ⟨i, hi⟩, hc⟩
    exact ⟨i, c, hi, hc⟩
  · rintro ⟨i, c, hi, hc⟩
    exact ⟨c, ⟨i, hi⟩, hc⟩

/-- What is computed is whether the pattern holds more. -/
theorem holdsMore_eq_true_iff (n : Node) : n.holdsMore = true ↔ n.HoldsMore := by
  induction n using ind with
  | h n ih =>
    have hparts : (∃ i c, n.BindsThrough i c ∧ c.HoldsMore) ↔
        ∃ i c, n.BindsThrough i c ∧ c.holdsMore = true := by
      refine exists₂_congr fun i c => and_congr_right fun hc => ?_
      exact (ih c (List.mem_of_getElem? hc.getElem?)).symm
    rw [holdsMore_iff, holdsMore_eq, hparts]
    cases hpattern : isPatternKind n.kind with
    | false =>
      have hdefault : n.kind ≠ .assignmentPattern ∧ n.kind ≠ .objectAssignmentPattern :=
        ⟨fun h => by simp [h] at hpattern, fun h => by simp [h] at hpattern⟩
      simp only [hdefault, false_and, or_false, Bool.false_eq_true]
      generalize n.kind = kind at hpattern ⊢
      cases kind <;> first | rfl | cases hpattern
    | true =>
      cases hkind : n.kind
      all_goals
        rw [hkind] at hpattern
        first
          | exact absurd hpattern Bool.false_ne_true
          | simp [BindsThrough, hkind, any_child?_iff, any_children_iff, -List.any_eq_true]

instance (n : Node) : Decidable n.HoldsMore := decidable_of_iff _ (holdsMore_eq_true_iff n)

end Node

end BlockAuthoring.Script
