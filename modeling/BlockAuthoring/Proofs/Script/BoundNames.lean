import BlockAuthoring.Proofs.Script.Reach
import BlockAuthoring.Script.Gate

/-!
# The names that a script declares in patterns

Whatever a declarator of a script declares is a name or a pattern, or holds what only an assignment
may hold. What is found in the tree of a name or a pattern are the names that it binds: not those of
keys and default values, however deep they are nested. One name is the exception. Inside a pattern
`undefined` is no identifier to the grammar, and so it is bound but not found.
-/

namespace BlockAuthoring.Script

/-- What a declarator of a script declares is the tree of a name or of a pattern, exactly if it holds
no more than these. -/
theorem exists_declared_iff_of_parse? {text : List Char} {root d n : Node} {p : Address}
    (hparse : parse? text = some root) (hd : root.at? p = some d)
    (hkind : d.kind = .variableDeclarator) (hn : d.child? .name = some n) :
    (∃ b : Binder, b.declared = n) ↔ ¬ n.HoldsMore := by
  have hshape : Node.Shape .variableDeclarator d.children :=
    hkind ▸ (Node.wellShaped_iff.mp ((wellShaped_of_parse? hparse).at? hd)).1
  constructor
  · rintro ⟨b, rfl⟩
    exact Node.not_holdsMore_declared b
  · exact (hshape n hn).2.resolve_right

/-- **Bound names are found.** What is found in the tree of a declared name or pattern are names that
it binds, each as often as it is bound and in the order of the source, and nothing else. Only those
are left out that read `undefined` inside a pattern and are no shorthands. And whatever a declarator
of a script declares is such a tree, exactly if it does not hold more: a member, or a default value
where a declaration has none. -/
theorem boundNames_found (n : Node) :
    (∀ b : Binder, b.declared = n →
      n.bindingNames.map BoundName.ofNode = b.findable
      ∧ (n.bindingNames.map BoundName.ofNode = b.boundNames ↔
          (∃ word, b = .name word) ∨ ∀ name ∈ b.boundNames, name.isFound = true))
    ∧ ∀ text root, parse? text = some root → ∀ p d, root.at? p = some d →
        d.kind = .variableDeclarator → d.child? .name = some n →
          ((∃ b : Binder, b.declared = n) ↔ ¬ n.HoldsMore) := by
  constructor
  · rintro b rfl
    have hfound : b.declared.bindingNames.map BoundName.ofNode = b.findable :=
      b.namesFound_declared
    rw [hfound]
    exact ⟨rfl, b.findable_eq_boundNames_iff⟩
  · intro text root hparse p d hd hkind hn
    exact exists_declared_iff_of_parse? hparse hd hkind hn

/-- A pattern of all parts, with names in keys and default values. -/
def nestedText : List Char :=
  "let {a, b: [c = function (d) { let {e} = d }, , ...f], [g]: h = i => i, ...j} = k".toList

theorem boundNames_found_nested :
    ∃ (root d n : Node) (b : Binder), parse? nestedText = some root ∧ root.at? [0, 0] = some d
      ∧ d.kind = .variableDeclarator ∧ d.child? .name = some n ∧ b.declared = n
      ∧ n.bindingNames.map (·.text) = [['a'], ['c'], ['f'], ['h'], ['j']]
      ∧ n.bindingNames.map BoundName.ofNode = b.findable := by
  have hread : ((parse? nestedText).bind (·.at? [0, 0])).map
      (fun d => (d.kind, (d.child? .name).map fun n =>
        (decide n.HoldsMore, n.bindingNames.map (·.text))))
        = some (.variableDeclarator, some (false, [['a'], ['c'], ['f'], ['h'], ['j']])) := by
    decide +kernel
  obtain ⟨d, hd, hpair⟩ := Option.map_eq_some_iff.mp hread
  obtain ⟨hkind, hname⟩ := Prod.mk.inj hpair
  obtain ⟨n, hn, hsummary⟩ := Option.map_eq_some_iff.mp hname
  obtain ⟨hmore, htexts⟩ := Prod.mk.inj hsummary
  obtain ⟨root, hparse, hat⟩ := Option.bind_eq_some_iff.mp hd
  obtain ⟨hfound, hdeclared⟩ := boundNames_found n
  obtain ⟨b, hb⟩ := (hdeclared nestedText root hparse [0, 0] d hat hkind hn).mpr
    (of_decide_eq_false hmore)
  exact ⟨root, d, n, b, hparse, hat, hkind, hn, hb, htexts, (hfound b hb).1⟩

/-- The pattern `[undefined, undefined]` at the place where it stands in `twiceText`. -/
def twicePattern : Binder :=
  .array ⟨6, 1, 7⟩ ⟨28, 1, 29⟩
    [.item (.name ⟨⟨7, 1, 8⟩, ⟨16, 1, 17⟩, "undefined".toList⟩) none,
     .item (.name ⟨⟨18, 1, 19⟩, ⟨27, 1, 28⟩, "undefined".toList⟩) none]

/-- A script that declares one name twice, in a pattern. -/
def twiceText : List Char := "const [undefined, undefined] = a;".toList

/-- The pattern binds two names and none is found, so the gate accepts the script. -/
theorem undefined_not_found :
    twicePattern.boundNames.map (·.word.text) = ["undefined".toList, "undefined".toList]
      ∧ twicePattern.declared.bindingNames.map BoundName.ofNode = []
      ∧ (moduleOfText twiceText).isOk = true := by
  decide +kernel

end BlockAuthoring.Script
