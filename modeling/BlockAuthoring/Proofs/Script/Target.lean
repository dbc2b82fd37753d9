import BlockAuthoring.Proofs.Script.Shape
import BlockAuthoring.Script.Target

/-!
# Expressions read as patterns

An expression that turns out to be a pattern was read before that was known. `Covers` is what has to
be known of an expression, so that whatever pattern it stands for is one of a declaration, unless it
holds more. Only a few kinds of expressions have to be looked into for it.
-/

namespace BlockAuthoring.Script.Node

/-- The kinds of expressions that do not tell by themselves which patterns they stand for. -/
@[reducible] def isOpenKind : Kind → Bool
  | .object | .array | .assignmentExpression | .spreadElement | .identifier | .undefinedValue => true
  | _ => false

/-- The expression stands for names and patterns of a declaration only, as far as these hold no more:
by itself, or on the left of an assignment, which stands for a pattern with a default value. -/
inductive Covers : Node → Prop where
  | target {n : Node} (assignment : n.kind ≠ .assignmentExpression) (spread : n.kind ≠ .spreadElement)
      (h : ∀ p, n.toPattern? = some p → p.PatternOf IsBinder) : Covers n
  | assignment {start stop : Position} {left right : Node}
      (h : left.kind ≠ .parenthesizedExpression → left.PatternOf IsBinder) :
      Covers ⟨.assignmentExpression, .plain, start, stop, [],
        [left.withRole .left, right.withRole .right]⟩

/-- As an element of a list the expression stands for elements of a declared pattern. -/
def CoversElement (n : Node) : Prop := ∀ p, n.toElement? = some p → p.PatternOf IsElement

/-- In an object the entry stands for members of a declared pattern. -/
def CoversMember (n : Node) : Prop :=
  ∀ p, toPattern?.member? n = some p → p.PatternOf IsMember

section

variable {n p inner left right key value : Node} {kind : Kind} {role : Role}
  {start stop : Position} {text : List Char} {children ns ps : List Node}

/-! ## What expressions stand for -/

theorem toPattern?_eq (n : Node) :
    n.toPattern? = match n.kind with
      | .object => (toPattern?.members? n.children).map fun cs =>
          { n with kind := .objectPattern, children := cs }
      | .array => (toPattern?.elements? n.children).map fun cs =>
          { n with kind := .arrayPattern, children := cs }
      | .assignmentExpression => match n.children with
          | [left, _] =>
            if left.kind = .parenthesizedExpression then none
            else some { n with kind := .assignmentPattern }
          | _ => none
      | .identifier | .undefinedValue | .memberExpression | .subscriptExpression => some n
      | _ => none := by
  obtain ⟨kind, role, start, stop, text, children⟩ := n
  cases kind
  case assignmentExpression => rcases children with _ | ⟨_, _ | ⟨_, _ | _⟩⟩ <;> rfl
  all_goals rfl

theorem member?_eq (n : Node) :
    toPattern?.member? n = match n.kind with
      | .shorthandProperty => some { n with kind := .shorthandPattern }
      | .objectAssignmentPattern => some n
      | .pair => match n.children with
          | [key, value] => value.toPattern?.map fun p =>
              { n with kind := .pairPattern, children := [key, p] }
          | _ => none
      | .spreadElement => match n.children with
          | [inner] =>
            if inner.kind = .assignmentExpression then none
            else inner.toPattern?.map fun p => { n with kind := .restPattern, children := [p] }
          | _ => none
      | _ => none := by
  obtain ⟨kind, role, start, stop, text, children⟩ := n
  cases kind
  case pair => rcases children with _ | ⟨_, _ | ⟨_, _ | _⟩⟩ <;> rfl
  case spreadElement => rcases children with _ | ⟨_, _ | _⟩ <;> rfl
  all_goals rfl

theorem toElement?_eq (n : Node) :
    n.toElement? = match n.kind with
      | .spreadElement => match n.children with
          | [inner] => inner.toPattern?.map (restOver n.role n.start n.stop n.text)
          | _ => none
      | _ => n.toPattern? := by
  obtain ⟨kind, role, start, stop, text, children⟩ := n
  cases kind
  case spreadElement => rcases children with _ | ⟨_, _ | _⟩ <;> rfl
  all_goals rfl

/-- Elements are turned into elements of a pattern one by one. -/
theorem elements?_eq_mapM (ns : List Node) :
    toPattern?.elements? ns = ns.mapM toElement? := by
  induction ns with
  | nil => rfl
  | cons n rest ih =>
    rw [List.mapM_cons, ← ih]
    by_cases hspread : ∃ role start stop text inner,
        n = ⟨.spreadElement, role, start, stop, text, [inner]⟩
    · obtain ⟨role, start, stop, text, inner, rfl⟩ := hspread
      rw [toPattern?.elements?, toElement?]
      cases inner.toPattern? <;> cases toPattern?.elements? rest <;> rfl
    · have hno : ∀ role start stop text inner,
          n = ⟨.spreadElement, role, start, stop, text, [inner]⟩ → False :=
        fun role start stop text inner h => hspread ⟨role, start, stop, text, inner, h⟩
      rw [toPattern?.elements?, toElement?]
      · cases n.toPattern? <;> cases toPattern?.elements? rest <;> rfl
      · exact hno
      · exact hno

theorem members?_eq_mapM (ns : List Node) :
    toPattern?.members? ns = ns.mapM toPattern?.member? := by
  induction ns with
  | nil => rfl
  | cons n rest ih =>
    rw [List.mapM_cons, ← ih, toPattern?.members?]
    cases toPattern?.member? n <;> cases toPattern?.members? rest <;> rfl

/-- What stands for something in a list came from one of its entries. -/
theorem exists_of_mapM_eq_some {f : Node → Option Node} (h : ns.mapM f = some ps) :
    ∀ p ∈ ps, ∃ n ∈ ns, f n = some p := by
  induction ns generalizing ps with
  | nil =>
    cases h
    simp
  | cons n rest ih =>
    simp only [List.mapM_cons, Option.pure_def, Option.bind_eq_bind, Option.bind_eq_some_iff] at h
    obtain ⟨q, hq, qs, hqs, hps⟩ := h
    cases hps
    refine List.forall_mem_cons.mpr ⟨⟨n, List.mem_cons_self, hq⟩, fun p hp => ?_⟩
    obtain ⟨m, hm, hmp⟩ := ih hqs p hp
    exact ⟨m, List.mem_cons_of_mem _ hm, hmp⟩

theorem toPattern?_withRole (n : Node) (role : Role) :
    (n.withRole role).toPattern? = n.toPattern?.map (·.withRole role) := by
  rw [toPattern?_eq, toPattern?_eq n]
  obtain ⟨kind, own, start, stop, text, children⟩ := n
  dsimp only [withRole]
  split
  case h_3 =>
    split
    · split <;> rfl
    · rfl
  all_goals simp [Option.map_map, Function.comp_def]

theorem toPattern?_of_access (h : n.kind.isAccess = true) : n.toPattern? = some n := by
  rw [toPattern?_eq]
  rcases Kind.isAccess_iff.mp h with h | h <;> rw [h]

theorem toPattern?_eq_none (hopen : isOpenKind n.kind = false)
    (haccess : n.kind.isAccess = false) : n.toPattern? = none := by
  rw [toPattern?_eq]
  split <;> simp_all

/-- Only an assignment stands for a pattern with a default value. -/
theorem kind_ne_assignmentPattern (h : n.toPattern? = some p)
    (hkind : n.kind ≠ .assignmentExpression) : p.kind ≠ .assignmentPattern := by
  rw [toPattern?_eq] at h
  split at h
  case h_3 => exact absurd ‹_› hkind
  case h_8 => cases h
  case h_1 | h_2 =>
    obtain ⟨cs, -, rfl⟩ := Option.map_eq_some_iff.mp h
    exact nofun
  all_goals
    cases h
    simp_all

/-! ## What expressions cover -/

/-- Most expressions tell by their kind which patterns they stand for: none, or a member. -/
@[simp] theorem covers_of_kind (h : isOpenKind n.kind = false) : n.Covers := by
  refine .target (fun hkind => by simp [hkind] at h) (fun hkind => by simp [hkind] at h) ?_
  intro p hp
  cases haccess : n.kind.isAccess with
  | true =>
    rw [toPattern?_of_access haccess] at hp
    cases hp
    exact patternOf_access haccess
  | false =>
    rw [toPattern?_eq_none h haccess] at hp
    cases hp

theorem covers_of_leaf (hkind : n.kind = .identifier) (hrole : n.role = .plain)
    (hchildren : n.children = []) :
    (if n.text == "undefined".toList then n.withKind .undefinedValue else n).Covers := by
  have hbinder := isBinder_of_leaf hkind hrole hchildren
  generalize hleaf : (if n.text == "undefined".toList then n.withKind .undefinedValue else n) = leaf
    at hbinder ⊢
  have hname : (leaf.kind = .identifier ∨ leaf.kind = .undefinedValue) ∧ leaf.children = [] := by
    rw [← hleaf]
    split
    · exact ⟨.inr rfl, hchildren⟩
    · exact ⟨.inl hkind, hchildren⟩
  obtain ⟨hname, hchildren⟩ := hname
  refine .target ?_ ?_ fun p hp => ?_
  · rcases hname with h | h <;> simp [h]
  · rcases hname with h | h <;> simp [h]
  · rw [toPattern?_eq] at hp
    rcases hname with h | h
    all_goals
      rw [h] at hp
      cases hp
      exact patternOf_leaf (by simp [h]) hchildren hbinder

theorem covers_array (h : ∀ c ∈ children, c.CoversElement) :
    (mk .array .plain start stop [] children).Covers := by
  refine .target nofun nofun fun p hp => ?_
  rw [toPattern?_eq] at hp
  obtain ⟨ps, hps, rfl⟩ := Option.map_eq_some_iff.mp hp
  rw [elements?_eq_mapM] at hps
  refine patternOf_array fun p hp => ?_
  obtain ⟨n, hn, hnp⟩ := exists_of_mapM_eq_some hps p hp
  exact h n hn p hnp

theorem covers_object (h : ∀ c ∈ children, c.CoversMember) :
    (mk .object .plain start stop [] children).Covers := by
  refine .target nofun nofun fun p hp => ?_
  rw [toPattern?_eq] at hp
  obtain ⟨ps, hps, rfl⟩ := Option.map_eq_some_iff.mp hp
  rw [members?_eq_mapM] at hps
  refine patternOf_object fun p hp => ?_
  obtain ⟨n, hn, hnp⟩ := exists_of_mapM_eq_some hps p hp
  exact h n hn p hnp

/-- Whatever an expression stands for as a pattern has a default value or none. -/
theorem Covers.isItem (h : n.Covers) (hp : n.toPattern? = some p) : p.PatternOf IsItem := by
  cases h with
  | target hassignment hspread hpattern => exact (hpattern p hp).imp isItem_of_isBinder
  | @assignment start stop left right hleft =>
    rw [toPattern?_eq] at hp
    simp only [Option.ite_none_left_eq_some, Option.some.injEq] at hp
    obtain ⟨hparenthesized, rfl⟩ := hp
    exact patternOf_default (hleft hparenthesized)

theorem Covers.coversElement (h : n.Covers) : n.CoversElement := by
  intro p hp
  rw [toElement?_eq] at hp
  cases h with
  | target hassignment hspread hpattern =>
    split at hp
    · exact absurd ‹_› hspread
    · exact (hpattern p hp).imp fun hbinder => isElement_of_isItem (isItem_of_isBinder hbinder)
  | assignment hleft => exact (Covers.isItem (.assignment hleft) hp).imp isElement_of_isItem

/-- Behind the three dots a default value belongs to the whole, which then is no rest of a
declaration. -/
theorem coversElement_spread (h : inner.Covers) :
    (mk .spreadElement .plain start stop [] [inner]).CoversElement := by
  intro p hp
  rw [toElement?_eq] at hp
  obtain ⟨q, hq, rfl⟩ := Option.map_eq_some_iff.mp hp
  cases h with
  | target hassignment hspread hpattern =>
    have hrest : restOver .plain start stop [] q = mk .restPattern .plain start stop [] [q] := by
      unfold restOver
      split
      · exact absurd rfl (kind_ne_assignmentPattern hq hassignment)
      · rfl
    dsimp only
    rw [hrest]
    exact patternOf_rest (hpattern q hq) isElement_rest
  | @assignment start' stop' left right hleft =>
    rw [toPattern?_eq] at hq
    simp only [Option.ite_none_left_eq_some, Option.some.injEq] at hq
    obtain ⟨hparenthesized, rfl⟩ := hq
    have hpattern : left.IsPattern := (hleft hparenthesized).1
    exact patternOf_defaultedRest (isPattern_withRole.mpr (isPattern_withRole.mpr hpattern))

theorem coversMember_spread (h : inner.Covers) :
    (mk .spreadElement .plain start stop [] [inner]).CoversMember := by
  intro p hp
  rw [member?_eq] at hp
  simp only [Option.ite_none_left_eq_some] at hp
  obtain ⟨hkind, hp⟩ := hp
  obtain ⟨q, hq, rfl⟩ := Option.map_eq_some_iff.mp hp
  cases h with
  | target hassignment hspread hpattern => exact patternOf_rest (hpattern q hq) isMember_rest
  | assignment hleft => exact absurd rfl hkind

theorem coversMember_pair (h : value.Covers) :
    (mk .pair .plain start stop [] [key.withRole .key, value.withRole .value]).CoversMember := by
  intro p hp
  rw [member?_eq] at hp
  obtain ⟨q, hq, rfl⟩ := Option.map_eq_some_iff.mp hp
  rw [toPattern?_withRole] at hq
  obtain ⟨v, hv, rfl⟩ := Option.map_eq_some_iff.mp hq
  exact patternOf_value (h.isItem hv)

theorem coversMember_of_kind (h : n.kind ≠ .shorthandProperty ∧ n.kind ≠ .objectAssignmentPattern
    ∧ n.kind ≠ .pair ∧ n.kind ≠ .spreadElement) : n.CoversMember := by
  intro p hp
  rw [member?_eq] at hp
  split at hp <;> simp_all

theorem coversMember_shorthand (hrole : n.role = .plain) (hchildren : n.children = []) :
    (n.withKind .shorthandProperty).CoversMember := by
  intro p hp
  rw [member?_eq] at hp
  cases hp
  exact patternOf_leaf rfl hchildren (isMember_withKind hrole hchildren)

theorem coversMember_default (hrole : n.role = .plain) (hchildren : n.children = []) :
    (mk .objectAssignmentPattern .plain start stop []
      [(n.withKind .shorthandPattern).withRole .left, right.withRole .right]).CoversMember := by
  intro p hp
  rw [member?_eq] at hp
  cases hp
  exact patternOf_shorthand_default hrole hchildren

/-- An assignment to a pattern is, as a member, a default value without a key. -/
theorem Covers.coversMember_keyless (h : n.Covers) (hkind : n.kind = .assignmentExpression)
    (hleft : (n.child? .left).any (fun left => left.kind == .objectPattern
      || left.kind == .arrayPattern) = true) :
    (n.withKind .objectAssignmentPattern).CoversMember := by
  cases h with
  | target hassignment _ _ => exact absurd hkind hassignment
  | @assignment start stop left right hpattern =>
    intro p hp
    rw [member?_eq] at hp
    cases hp
    have hkinds : left.kind = .objectPattern ∨ left.kind = .arrayPattern := by
      simpa [child?, withRole] using hleft
    have hplace : left.kind ≠ .parenthesizedExpression := by
      rcases hkinds with h | h <;> simp [h]
    have hshorthand : left.kind ≠ .shorthandPattern := by
      rcases hkinds with h | h <;> simp [h]
    exact patternOf_keyless (hpattern hplace).1 hshorthand

/-! ## Assigning and declaring -/

/-- On the left of `=` stands what a pattern may hold without a default value, or a place in
parentheses. -/
theorem Covers.target_of_toTarget? (h : n.Covers) (hp : n.toTarget? = some p)
    (hkind : p.kind ≠ .parenthesizedExpression) : p.PatternOf IsBinder := by
  unfold toTarget? at hp
  split at hp
  case h_1 hn =>
    split at hp
    · cases hp
      exact absurd hn hkind
    · cases hp
  case h_2 => cases hp
  case h_3 => cases hp
  case h_4 hassignment hspread =>
    cases h with
    | target _ _ hpattern => exact hpattern p hp
    | assignment _ => exact absurd rfl hassignment

/-- What is read for a declaration, behind its word or a comma. -/
theorem Covers.isDeclared (h : n.Covers) (hkind : n.kind = .object ∨ n.kind = .array)
    (hp : n.toPattern? = some p) : p.PatternOf IsDeclared := by
  cases h with
  | target _ _ hpattern =>
    refine (hpattern p hp).imp fun hbinder => isDeclared_of_isBinder hbinder ?_
    rw [toPattern?_eq] at hp
    rcases hkind with hkind | hkind
    all_goals
      rw [hkind] at hp
      obtain ⟨cs, -, rfl⟩ := Option.map_eq_some_iff.mp hp
      exact nofun
  | assignment _ => rcases hkind with hkind | hkind <;> cases hkind

/-! ## Shapes -/

theorem wellShaped_restOver (h : p.WellShaped) : (restOver role start stop text p).WellShaped := by
  unfold restOver
  split
  · simpa using h
  · simpa using h

theorem wellShaped_of_toPattern? (hn : n.WellShaped)
    (helement : ∀ c ∈ n.children, ∀ q, c.toElement? = some q → q.WellShaped)
    (hmember : ∀ c ∈ n.children, ∀ q, toPattern?.member? c = some q → q.WellShaped)
    (h : n.toPattern? = some p) : p.WellShaped := by
  rw [toPattern?_eq] at h
  split at h
  case h_1 =>
    obtain ⟨ps, hps, rfl⟩ := Option.map_eq_some_iff.mp h
    rw [members?_eq_mapM] at hps
    refine .mk (shape_of_not_isShaped rfl _) fun q hq => ?_
    obtain ⟨c, hc, hcq⟩ := exists_of_mapM_eq_some hps q hq
    exact hmember c hc q hcq
  case h_2 =>
    obtain ⟨ps, hps, rfl⟩ := Option.map_eq_some_iff.mp h
    rw [elements?_eq_mapM] at hps
    refine .mk (shape_of_not_isShaped rfl _) fun q hq => ?_
    obtain ⟨c, hc, hcq⟩ := exists_of_mapM_eq_some hps q hq
    exact helement c hc q hcq
  case h_3 =>
    split at h
    · split at h
      · cases h
      · cases h
        exact .mk (shape_of_not_isShaped rfl _) fun q hq => hn.of_mem hq
    · cases h
  case h_8 => cases h
  all_goals
    cases h
    exact hn

theorem wellShaped_of_toElement? (hpattern : ∀ q, n.toPattern? = some q → q.WellShaped)
    (hparts : ∀ c ∈ n.children, ∀ q, c.toPattern? = some q → q.WellShaped)
    (h : n.toElement? = some p) : p.WellShaped := by
  rw [toElement?_eq] at h
  split at h
  · split at h
    · rename_i inner hchildren
      obtain ⟨q, hq, rfl⟩ := Option.map_eq_some_iff.mp h
      exact wellShaped_restOver (hparts inner (by simp [hchildren]) q hq)
    · cases h
  · exact hpattern p h

theorem wellShaped_of_member? (hn : n.WellShaped)
    (hparts : ∀ c ∈ n.children, ∀ q, c.toPattern? = some q → q.WellShaped)
    (h : toPattern?.member? n = some p) : p.WellShaped := by
  rw [member?_eq] at h
  split at h
  case h_1 =>
    cases h
    exact .mk (shape_of_not_isShaped rfl _) fun q hq => hn.of_mem hq
  case h_2 =>
    cases h
    exact hn
  case h_3 =>
    split at h
    · rename_i key value hchildren
      obtain ⟨q, hq, rfl⟩ := Option.map_eq_some_iff.mp h
      have hkey : key.WellShaped := hn.of_mem (by simp [hchildren])
      have hvalue := hparts value (by simp [hchildren]) q hq
      simp [hkey, hvalue]
    · cases h
  case h_4 =>
    split at h
    · split at h
      · cases h
      · rename_i inner hchildren _
        obtain ⟨q, hq, rfl⟩ := Option.map_eq_some_iff.mp h
        have hinner := hparts inner (by simp [hchildren]) q hq
        simp [hinner]
    · cases h
  case h_5 => cases h

/-- What an expression stands for is as well shaped as it is, by itself and as a part. -/
theorem wellShaped_of_covering (n : Node) (hn : n.WellShaped) :
    (∀ p, n.toPattern? = some p → p.WellShaped) ∧ (∀ p, n.toElement? = some p → p.WellShaped)
      ∧ ∀ p, toPattern?.member? n = some p → p.WellShaped := by
  induction n using ind with
  | h n ih =>
    have hparts := fun c hc => ih c hc (hn.of_mem hc)
    have hinner := fun c hc => (hparts c hc).1
    have hpattern : ∀ p, n.toPattern? = some p → p.WellShaped := fun p =>
      wellShaped_of_toPattern? hn (fun c hc => (hparts c hc).2.1) fun c hc => (hparts c hc).2.2
    exact ⟨hpattern, fun p => wellShaped_of_toElement? hpattern hinner,
      fun p => wellShaped_of_member? hn hinner⟩

theorem wellShaped_of_toTarget? (h : n.toTarget? = some p) (hn : n.WellShaped) :
    p.WellShaped := by
  unfold toTarget? at h
  split at h
  case h_1 =>
    split at h
    · cases h
      exact hn
    · cases h
  case h_2 => cases h
  case h_3 => cases h
  case h_4 => exact (wellShaped_of_covering n hn).1 p h

end

end BlockAuthoring.Script.Node
