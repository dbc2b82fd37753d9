import BlockAuthoring.Proofs.Script.Grammar
import BlockAuthoring.Proofs.Script.Scope
import BlockAuthoring.Script.Gate

/-!
# How far a declaration reaches

Between a scope and a name that it declares stand only declarations, exports, imports, the cases of
a `switch` and patterns. So no scope declares what stands in a scope inside it, in the parameters of a
function or in the head of a loop. There is one way around this: a member in the place of a name is
gone through like a pattern, and in the index of a member there may be functions.
-/

namespace BlockAuthoring.Script

namespace Kind

/-- Nodes that may stand between a scope and a name that it declares. -/
def carries : Kind → Bool
  | switchCase | switchDefault | exportStatement | exportDefault
  | lexicalDeclaration | variableDeclaration | variableDeclarator
  | classDeclaration | functionDeclaration | generatorFunctionDeclaration
  | importStatement | importClause | namespaceImport | namedImports | importSpecifier => true
  | kind => Node.isPatternKind kind

/-- Nodes that keep the names that are declared in them: scopes, parameters and what else belongs to
a function or a class alone, heads of loops and handlers. -/
def encloses : Kind → Bool
  | formalParameters | functionExpression | generatorFunction | arrowFunction | methodDefinition
  | classExpression | classBody | forStatement | forInStatement | catchClause => true
  | kind => kind.isScope

theorem encloses_eq_false_of_carries {kind : Kind} (h : kind.carries = true) :
    kind.encloses = false := by
  cases kind <;> first | rfl | cases h

end Kind

namespace Node

/-- From the node a way leads to `m`, over nodes that may stand between a scope and a name, or from a
member on over any nodes. -/
inductive Leads : Node → Address → Node → Prop where
  | here {n : Node} : Leads n [] n
  | inside {n m : Node} {p : Address} (kind : n.kind.isAccess = true) (hm : n.at? p = some m) :
      Leads n p m
  | step {n c m : Node} {i : Nat} {p : Address} (kind : n.kind.carries = true)
      (hc : n.children[i]? = some c) (hm : Leads c p m) : Leads n (i :: p) m

theorem Leads.at? {n m : Node} {p : Address} (h : n.Leads p m) : n.at? p = some m := by
  induction h with
  | here => rfl
  | inside kind hm => exact hm
  | step kind hc hm ih => rw [at?_cons, hc, Option.bind_some, ih]

/-- Up to where the way ends, or up to the first member, nothing keeps names to itself. -/
theorem Leads.carries {n m : Node} {p : Address} (h : n.Leads p m) :
    ∃ front rest k, p = front ++ rest ∧ n.at? front = some k
      ∧ (rest = [] ∨ k.kind.isAccess = true) ∧ ∀ a ∈ n.ancestors front, a.kind.carries = true := by
  induction h with
  | @here n => exact ⟨[], [], n, rfl, rfl, .inl rfl, by simp⟩
  | @inside n m p kind hm => exact ⟨[], p, n, rfl, rfl, .inr kind, by simp⟩
  | @step n c m i p kind hc hm ih =>
    obtain ⟨front, rest, k, rfl, hk, hrest, hcarries⟩ := ih
    refine ⟨i :: front, rest, k, rfl, by rw [at?_cons, hc, Option.bind_some, hk], hrest, ?_⟩
    rw [ancestors_cons hc]
    intro a ha
    rcases List.mem_append.mp ha with ha | ha
    · exact hcarries a ha
    · rw [List.mem_singleton.mp ha]
      exact kind

theorem WellShaped.getElem? {n c : Node} {i : Nat} (h : n.WellShaped)
    (hc : n.children[i]? = some c) : c.WellShaped :=
  h.of_mem (List.mem_of_getElem? hc)

theorem WellShaped.at? {n m : Node} {p : Address} (h : n.WellShaped) (hm : n.at? p = some m) :
    m.WellShaped := by
  induction p generalizing n with
  | nil =>
    cases hm
    exact h
  | cons i p ih =>
    rw [at?_cons, Option.bind_eq_some_iff] at hm
    obtain ⟨c, hc, hm⟩ := hm
    exact ih (h.getElem? hc) hm

/-! ## From the statements of a scope to its names -/

section Names

variable {n m : Node} {p : Address} {d : Declared}

theorem carries_of_isPatternKind {kind : Kind} (h : isPatternKind kind = true) :
    kind.carries = true := by
  cases kind <;> first | rfl | cases h

theorem BindsAt.at? (h : n.BindsAt p m) : n.at? p = some m := by
  induction h with
  | name => rfl
  | through hc hm ih => rw [at?_cons, hc.getElem?, Option.bind_some, ih]

theorem BindsAt.leads (h : n.BindsAt p m) (hn : n.IsPattern) : n.Leads p m := by
  induction h with
  | name => exact .here
  | through hc hm ih =>
    cases hn with
    | access kind => exact .inside kind (BindsAt.through hc hm).at?
    | mk kind parts => exact .step (carries_of_isPatternKind kind) hc.getElem? (ih (parts _ _ hc))

theorem VariableAt.leads (h : n.VariableAt p m) (kind : n.kind.carries = true)
    (hn : n.WellShaped) : n.Leads p m := by
  cases h with
  | @declarator i j d c m q hd hkind hc hm =>
    have hshape : Shape .variableDeclarator d.children :=
      hkind ▸ (wellShaped_iff.mp (hn.getElem? hd)).1
    have hpattern : c.IsPattern := (hshape c (child?_eq_some_iff.mpr ⟨j, hc⟩)).1
    exact .step kind hd (.step (by rw [hkind]; rfl) hc.1 (hm.leads hpattern))

theorem PartImportsAt.leads (h : n.PartImportsAt p m) (hn : n.WellShaped) : n.Leads p m := by
  cases h with
  | itself => exact .here
  | whole hkind hm => exact .step (by rw [hkind]; rfl) hm .here
  | @named i j specifier m hkind hs hm =>
    have hshape : Shape .namedImports n.children := hkind ▸ (wellShaped_iff.mp hn).1
    have hspecifier := hshape specifier (List.mem_of_getElem? hs)
    have hchild : specifier.children[j]? = some m := hm.elim (·.1) (·.2.1)
    exact .step (by rw [hkind]; rfl) hs (.step (by rw [hspecifier]; rfl) hchild .here)

theorem ImportsAt.leads (h : n.ImportsAt p m) (kind : n.kind.carries = true)
    (hn : n.WellShaped) : n.Leads p m := by
  cases h with
  | clause hc hkind hpart hm =>
    exact .step kind hc
      (.step (by rw [hkind]; rfl) hpart (hm.leads ((hn.getElem? hc).getElem? hpart)))

theorem NamesAt.leads (h : n.NamesAt p d) (hn : n.WellShaped) : n.Leads p d.name := by
  cases h with
  | lexical hkind hm => exact hm.leads (by rw [hkind]; rfl) hn
  | «variable» hkind hm => exact hm.leads (by rw [hkind]; rfl) hn
  | «class» hkind hc => exact .step (by rw [hkind]; rfl) hc.1 .here
  | function hkind hc =>
    exact .step (by rcases hkind with hkind | hkind <;> rw [hkind] <;> rfl) hc.1 .here
  | «import» hkind hm => exact hm.leads (by rw [hkind]; rfl) hn

theorem carries_of_isExport {kind : Kind} (h : isExport kind = true) : kind.carries = true := by
  cases kind <;> first | rfl | cases h

theorem DeclaresAt.leads (h : n.DeclaresAt p d) (hn : n.WellShaped) : n.Leads p d.name := by
  induction h with
  | itself hkind hd => exact hd.leads hn
  | exported hkind hc hd ih => exact .step (carries_of_isExport hkind) hc.1 (ih (hn.getElem? hc.1))

/-- What a scope declares stands where its statements say so, and nothing on the way there keeps
names to itself, or nothing up to a member that stands in the place of a name. -/
theorem ScopeDeclaresAt.reaches {scope : Node} (h : scope.ScopeDeclaresAt p d)
    (hscope : scope.WellShaped) :
    scope.at? p = some d.name ∧ ∃ front rest k, p = front ++ rest ∧ scope.at? front = some k
      ∧ (rest = [] ∨ k.kind.isAccess = true)
      ∧ ∀ a ∈ (scope.ancestors front).dropLast, a.kind.encloses = false := by
  obtain ⟨i, c, q, rfl, hc, hleads⟩ : ∃ i c q, p = i :: q ∧ scope.children[i]? = some c
      ∧ c.Leads q d.name := by
    cases h with
    | statement hkind hs hd => exact ⟨_, _, _, rfl, hs, hd.leads (hscope.getElem? hs)⟩
    | @inCase i j c s q d hkind hc hs hd =>
      have hshape : Shape .switchBody scope.children := hkind ▸ (wellShaped_iff.mp hscope).1
      have hcarries : c.kind.carries = true := by
        rcases hshape c (List.mem_of_getElem? hc) with hcase | hcase <;> rw [hcase] <;> rfl
      have hleads := hd.leads ((hscope.getElem? hc).getElem? hs)
      exact ⟨_, _, _, rfl, hc, .step hcarries hs hleads⟩
  obtain ⟨front, rest, k, rfl, hk, hrest, hcarries⟩ := hleads.carries
  have hat : scope.at? (i :: (front ++ rest)) = some d.name := by
    rw [at?_cons, hc, Option.bind_some, hleads.at?]
  refine ⟨hat, i :: front, rest, k, rfl, by rw [at?_cons, hc, Option.bind_some, hk], hrest, ?_⟩
  intro a ha
  rw [ancestors_cons hc, List.dropLast_concat] at ha
  exact Kind.encloses_eq_false_of_carries (hcarries a ha)

end Names

end Node

/-! ## Redeclarations -/

/-- A scope reports, in document order, exactly those names of its statements that clash with one in
front of them. So the order of its statements does not matter for whether it reports any. And in the
tree of a script nothing that keeps names to itself stands between a scope and the names that it
declares, unless a member that stands in the place of a name is in front of it on the way. -/
theorem redeclared_reports_clashes (scope : Node) :
    InOrder (fun q n => ∃ d, scope.ScopeDeclaresAt q d
        ∧ (∃ p e, scope.ScopeDeclaresAt p e ∧ p < q ∧ Clash e d) ∧ n = d.name) scope.redeclared
      ∧ (∀ other : Node, other.scopeStatements.Perm scope.scopeStatements →
        (other.redeclared = [] ↔ scope.redeclared = []))
      ∧ ∀ text root, parse? text = some root → ∀ p, root.at? p = some scope →
        ∀ q d, scope.ScopeDeclaresAt q d → scope.at? q = some d.name
          ∧ ∃ front rest k, q = front ++ rest ∧ scope.at? front = some k
            ∧ (rest = [] ∨ k.kind.isAccess = true)
            ∧ ∀ a ∈ (scope.ancestors front).dropLast, a.kind.encloses = false := by
  refine ⟨?_, fun other => Node.redeclared_eq_nil_of_perm, ?_⟩
  · exact redeclaredAfter_inOrder (Node.scopeDeclarations_inOrder scope)
  · intro text root hparse p hscope q d hd
    exact hd.reaches ((wellShaped_of_parse? hparse).at? hscope)

/-- A `switch` whose second case declares once more, in a pattern, what a function in its first case
declares. -/
def switchText : List Char :=
  "switch (k) { case 1: function f(g) { let g } default: let {h: [f = 1]} = k }".toList

/-- The scope of the `switch`, as it is and with its cases the other way round. -/
theorem redeclared_reports_clashes_switch :
    ∃ root scope q d, parse? switchText = some root ∧ root.at? [0, 1] = some scope
      ∧ scope.redeclared.map (·.text) = [['f']]
      ∧ { scope with children := scope.children.reverse }.redeclared ≠ []
      ∧ scope.ScopeDeclaresAt q d ∧ scope.at? q = some d.name
      ∧ ∃ front rest k, q = front ++ rest ∧ scope.at? front = some k
        ∧ (rest = [] ∨ k.kind.isAccess = true)
        ∧ ∀ a ∈ (scope.ancestors front).dropLast, a.kind.encloses = false := by
  have hreport : ((parse? switchText).bind (·.at? [0, 1])).map
      (fun scope => scope.redeclared.map (·.text)) = some [['f']] := by decide +kernel
  obtain ⟨scope, hscope, htexts⟩ := Option.map_eq_some_iff.mp hreport
  obtain ⟨root, hparse, hat⟩ := Option.bind_eq_some_iff.mp hscope
  obtain ⟨⟨found, -, hmem, hfound⟩, horder, hreach⟩ := redeclared_reports_clashes scope
  have hrefused : scope.redeclared ≠ [] := fun hnil => by simp [hnil] at htexts
  have hreversed : { scope with children := scope.children.reverse }.redeclared ≠ [] :=
    mt (horder { scope with children := scope.children.reverse }
      (Node.scopeStatements_perm rfl (List.reverse_perm _))).mp hrefused
  obtain ⟨n, hn⟩ := List.exists_mem_of_ne_nil _ hrefused
  rw [← hfound] at hn
  obtain ⟨⟨q, n⟩, hq, rfl⟩ := List.mem_map.mp hn
  obtain ⟨d, hd, -, -⟩ := (hmem q n).mp hq
  exact ⟨root, scope, q, d, hparse, hat, htexts, hreversed, hd,
    hreach _ root hparse _ hat q d hd⟩

/-- A declaration with a member in the place of a name, and a function in the index of the member. -/
def memberText : List Char := "const [a[() => { let x; }]] = c; let x;".toList

/-- The block of the function declares a name. The script declares the same one, at the same place,
and the name of its second statement is refused for it. -/
theorem nested_declaration_clashes :
    ∃ root block, parse? memberText = some root
      ∧ root.at? [0, 0, 0, 0, 1, 1] = some block ∧ block.kind = .statementBlock
      ∧ block.scopeDeclarations.map (·.name.start) = [⟨21, 1, 22⟩]
      ∧ root.scopeDeclarations.map (·.name.start) = [⟨7, 1, 8⟩, ⟨21, 1, 22⟩, ⟨37, 1, 38⟩]
      ∧ root.redeclared.map (·.start) = [⟨37, 1, 38⟩]
      ∧ moduleOfText memberText = .error (.violation (.redeclared ['x']) 1 38) := by
  have hread : (parse? memberText).map (fun root =>
      (root.scopeDeclarations.map (·.name.start), root.redeclared.map (·.start),
        (root.at? [0, 0, 0, 0, 1, 1]).map fun block =>
          (block.kind, block.scopeDeclarations.map (·.name.start))))
      = some ([⟨7, 1, 8⟩, ⟨21, 1, 22⟩, ⟨37, 1, 38⟩], [⟨37, 1, 38⟩],
          some (.statementBlock, [⟨21, 1, 22⟩])) := by decide +kernel
  have hrefusal : (parse? memberText).bind Node.refusal?
      = some (.violation (.redeclared ['x']) 1 38) := by decide +kernel
  obtain ⟨root, hparse, hsummary⟩ := Option.map_eq_some_iff.mp hread
  simp only [Prod.mk.injEq] at hsummary
  obtain ⟨hroot, hclash, hblock⟩ := hsummary
  obtain ⟨block, hat, hpair⟩ := Option.map_eq_some_iff.mp hblock
  obtain ⟨hkind, hinner⟩ := Prod.mk.inj hpair
  rw [hparse, Option.bind_some] at hrefusal
  have hrefused : moduleOfText memberText = .error (.violation (.redeclared ['x']) 1 38) := by
    simp only [moduleOfText, hparse, hrefusal]
  exact ⟨root, block, hparse, hat, hkind, hinner, hroot, hclash, hrefused⟩

end BlockAuthoring.Script
