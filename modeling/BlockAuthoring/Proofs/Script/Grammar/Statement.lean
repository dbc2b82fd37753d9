import BlockAuthoring.Proofs.Script.Grammar.Expression

/-!
# Trees of statements

Here the shapes are made that something is promised about: declarators of names and patterns, bodies
of a `switch` of cases, and lists of imports of specifiers.
-/

namespace BlockAuthoring.Script.Rules

open Std.Do Reader

set_option mvcgen.warning false

variable (r : Rules) [r.Sound]

@[spec] theorem block_spec : ⦃⌜True⌝⦄ r.block ⦃⇓? n => ⌜n.WellShaped⌝⦄ := by
  have hstatements := manyUntil_spec (discard (mark "\x7d")) r.bound (r.read_wellShaped .statement)
  mvcgen [block, hstatements]
  simp_all

@[spec] theorem expressionStatement_spec :
    ⦃⌜True⌝⦄ r.expressionStatement ⦃⇓? n => ⌜n.WellShaped⌝⦄ := by
  mvcgen [expressionStatement] <;> simp_all

/-! ## Declarations -/

@[spec] theorem toPattern?_spec (n : Node) :
    ⦃⌜n.WellShaped ∧ n.Covers ∧ (n.kind = .object ∨ n.kind = .array)⌝⦄ n.toPattern?
    ⦃⇓? p => ⌜p.WellShaped ∧ p.PatternOf Node.IsDeclared⌝⦄ :=
  option_triple_iff.mpr fun hn p hp =>
    ⟨(Node.wellShaped_of_covering n hn.1).1 p hp, hn.2.1.isDeclared hn.2.2 hp⟩

@[spec] theorem declared_spec :
    ⦃⌜True⌝⦄ r.declared ⦃⇓? n => ⌜n.WellShaped ∧ n.PatternOf Node.IsDeclared⌝⦄ := by
  mvcgen [declared]
  all_goals simp_all [Node.patternOf_leaf, Node.isDeclared_of_leaf]

@[spec] theorem declaratorOf_spec (allowIn : Bool) (name : Node) :
    ⦃⌜name.WellShaped ∧ name.PatternOf Node.IsDeclared⌝⦄ r.declaratorOf allowIn name
    ⦃⇓? n => ⌜n.WellShaped⌝⦄ := by
  mvcgen [declaratorOf] <;> simp_all

@[spec] theorem declaratorsOf_spec (allowIn : Bool) (name : Node) :
    ⦃⌜name.WellShaped ∧ name.PatternOf Node.IsDeclared⌝⦄ r.declaratorsOf allowIn name
    ⦃⇓? ns => ⌜∀ n ∈ ns, n.WellShaped⌝⦄ := by
  have hone : ⦃⌜True⌝⦄ (do
      let _ ← mark "," false
      let name ← r.declared
      r.declaratorOf allowIn name : Reader Node) ⦃⇓? n => ⌜n.WellShaped⌝⦄ := by
    mvcgen
  have hmany := many_spec r.bound hone
  mvcgen [declaratorsOf, hmany]
  simp_all

theorem isShaped_declarationKind (word : String) :
    Node.isShaped (declarationKind word) = false := by
  unfold declarationKind
  split <;> rfl

@[spec] theorem declaration_spec (word : String) :
    ⦃⌜True⌝⦄ r.declaration word ⦃⇓? n => ⌜n.WellShaped⌝⦄ := by
  mvcgen [declaration] <;> simp_all [isShaped_declarationKind]

@[spec] theorem letDeclares_spec : ⦃⌜True⌝⦄ letDeclares ⦃⇓? _ => ⌜True⌝⦄ := triple_true _

@[spec] theorem namedFunction_spec : ⦃⌜True⌝⦄ namedFunction ⦃⇓? _ => ⌜True⌝⦄ := triple_true _

@[spec] theorem namedClass_spec : ⦃⌜True⌝⦄ namedClass ⦃⇓? _ => ⌜True⌝⦄ := triple_true _

@[spec] theorem functionOrClass_spec (start : Position) (front : List Node) :
    ⦃⌜∀ n ∈ front, n.WellShaped⌝⦄ r.functionOrClass start front ⦃⇓? n => ⌜n.WellShaped⌝⦄ := by
  mvcgen [functionOrClass] <;> simp_all

/-! ## Imports and exports -/

@[spec] theorem exportedName_spec : ⦃⌜True⌝⦄ exportedName ⦃⇓? n => ⌜n.WellShaped⌝⦄ := by
  mvcgen [exportedName] <;> simp_all

@[spec] theorem moduleSource_spec :
    ⦃⌜True⌝⦄ r.moduleSource ⦃⇓? ns => ⌜∀ n ∈ ns, n.WellShaped⌝⦄ := by
  mvcgen [moduleSource] <;> simp_all

@[spec] theorem fromClause_spec :
    ⦃⌜True⌝⦄ r.fromClause ⦃⇓? ns => ⌜∀ n ∈ ns, n.WellShaped⌝⦄ := by
  mvcgen [fromClause]

@[spec] theorem importSpecifier_spec :
    ⦃⌜True⌝⦄ importSpecifier ⦃⇓? n => ⌜n.WellShaped ∧ n.kind = .importSpecifier⌝⦄ := by
  mvcgen [importSpecifier, node] <;> simp_all

@[spec] theorem namedImports_spec (r : Rules) :
    ⦃⌜True⌝⦄ r.namedImports ⦃⇓? n => ⌜n.WellShaped⌝⦄ := by
  have hspecifiers := r.items_spec "\x7d" importSpecifier_spec
  mvcgen [namedImports, hspecifiers] <;> simp_all

@[spec] theorem namespaceImport_spec :
    ⦃⌜True⌝⦄ namespaceImport ⦃⇓? n => ⌜n.WellShaped⌝⦄ := by
  mvcgen [namespaceImport] <;> simp_all

@[spec] theorem importList_spec (r : Rules) :
    ⦃⌜True⌝⦄ r.importList ⦃⇓? n => ⌜n.WellShaped⌝⦄ := by
  mvcgen [importList]

@[spec] theorem importClause_spec (r : Rules) :
    ⦃⌜True⌝⦄ r.importClause ⦃⇓? n => ⌜n.WellShaped⌝⦄ := by
  mvcgen [importClause] <;> simp_all

@[spec] theorem importStatement_spec :
    ⦃⌜True⌝⦄ r.importStatement ⦃⇓? n => ⌜n.WellShaped⌝⦄ := by
  mvcgen [importStatement] <;> simp_all

@[spec] theorem exportSpecifier_spec :
    ⦃⌜True⌝⦄ exportSpecifier ⦃⇓? n => ⌜n.WellShaped⌝⦄ := by
  mvcgen [exportSpecifier] <;> simp_all

@[spec] theorem exportEnd_spec (start : Position) (front : Node) (needsSource : Bool) :
    ⦃⌜front.WellShaped⌝⦄ r.exportEnd start front needsSource ⦃⇓? n => ⌜n.WellShaped⌝⦄ := by
  mvcgen [exportEnd] <;> simp_all

@[spec] theorem exportDefault_spec (start : Position) (front : List Node) :
    ⦃⌜∀ n ∈ front, n.WellShaped⌝⦄ r.exportDefault start front ⦃⇓? n => ⌜n.WellShaped⌝⦄ := by
  mvcgen [exportDefault] <;> simp_all [or_imp]

@[spec] theorem exportedDeclaration_spec :
    ⦃⌜True⌝⦄ r.exportedDeclaration ⦃⇓? n => ⌜n.WellShaped⌝⦄ := by
  mvcgen [exportedDeclaration]

@[spec] theorem exportStatement_spec (start : Position) (front : List Node) :
    ⦃⌜∀ n ∈ front, n.WellShaped⌝⦄ r.exportStatement start front ⦃⇓? n => ⌜n.WellShaped⌝⦄ := by
  have hspecifiers := r.items_spec "\x7d" exportSpecifier_spec
  mvcgen [exportStatement, hspecifiers] <;> simp_all [or_imp]

/-! ## Control flow -/

@[spec] theorem guarded_spec (kind : Kind) (word : String) :
    ⦃⌜Node.isShaped kind = false⌝⦄ r.guarded kind word ⦃⇓? n => ⌜n.WellShaped⌝⦄ := by
  mvcgen [guarded] <;> simp_all

@[spec] theorem ifStatement_spec : ⦃⌜True⌝⦄ r.ifStatement ⦃⇓? n => ⌜n.WellShaped⌝⦄ := by
  mvcgen [ifStatement] <;> simp_all

@[spec] theorem doStatement_spec : ⦃⌜True⌝⦄ r.doStatement ⦃⇓? n => ⌜n.WellShaped⌝⦄ := by
  mvcgen [doStatement] <;> simp_all

@[spec] theorem forInRest_spec (start : Position) (left : Node) :
    ⦃⌜left.WellShaped⌝⦄ r.forInRest start left ⦃⇓? n => ⌜n.WellShaped⌝⦄ := by
  have hword := either_spec (keyword_spec "of") (keyword_spec "in")
  mvcgen [forInRest, hword] <;> simp_all

@[spec] theorem forRest_spec (start : Position) (first : List Node) :
    ⦃⌜∀ n ∈ first, n.WellShaped⌝⦄ r.forRest start first ⦃⇓? n => ⌜n.WellShaped⌝⦄ := by
  mvcgen [forRest] <;> simp_all [or_imp]

@[spec] theorem walksNext_spec : ⦃⌜True⌝⦄ walksNext ⦃⇓? _ => ⌜True⌝⦄ := triple_true _

@[spec] theorem forDeclaration_spec (start : Position) (word : String) :
    ⦃⌜True⌝⦄ r.forDeclaration start word ⦃⇓? n => ⌜n.WellShaped⌝⦄ := by
  mvcgen [forDeclaration] <;> simp_all [isShaped_declarationKind]

@[spec] theorem forExpression_spec (start : Position) :
    ⦃⌜True⌝⦄ r.forExpression start ⦃⇓? n => ⌜n.WellShaped⌝⦄ := by
  have hone : ⦃⌜True⌝⦄ (do let _ ← mark "," false; r.read (.assignment false) : Reader Node)
      ⦃⇓? n => ⌜n.WellShaped⌝⦄ := by
    mvcgen
    simp_all
  have hmany := many_spec r.bound hone
  mvcgen [forExpression, hmany] <;> simp_all

@[spec] theorem forStatement_spec : ⦃⌜True⌝⦄ r.forStatement ⦃⇓? n => ⌜n.WellShaped⌝⦄ := by
  mvcgen [forStatement]
  simp_all

@[spec] theorem caseBody_spec :
    ⦃⌜True⌝⦄ r.caseBody ⦃⇓? ns => ⌜∀ n ∈ ns, n.WellShaped⌝⦄ :=
  manyUntil_spec _ r.bound (r.read_wellShaped .statement)

@[spec] theorem switchCase_spec : ⦃⌜True⌝⦄ r.switchCase
    ⦃⇓? n => ⌜n.WellShaped ∧ (n.kind = .switchCase ∨ n.kind = .switchDefault)⌝⦄ := by
  mvcgen [switchCase, node] <;> simp_all

@[spec] theorem switchStatement_spec :
    ⦃⌜True⌝⦄ r.switchStatement ⦃⇓? n => ⌜n.WellShaped⌝⦄ := by
  have hcases := manyUntil_spec (discard (mark "\x7d")) r.bound r.switchCase_spec
  mvcgen [switchStatement, hcases] <;> simp_all

@[spec] theorem tryStatement_spec : ⦃⌜True⌝⦄ r.tryStatement ⦃⇓? n => ⌜n.WellShaped⌝⦄ := by
  mvcgen [tryStatement] <;> simp_all [or_imp]

@[spec] theorem wordStatement_spec (kind : Kind) (word : String) :
    ⦃⌜Node.isShaped kind = false⌝⦄ r.wordStatement kind word ⦃⇓? n => ⌜n.WellShaped⌝⦄ := by
  mvcgen [wordStatement] <;> simp_all

@[spec] theorem jumpStatement_spec (kind : Kind) (word : String) :
    ⦃⌜Node.isShaped kind = false⌝⦄ jumpStatement kind word ⦃⇓? n => ⌜n.WellShaped⌝⦄ := by
  mvcgen [jumpStatement] <;> simp_all

@[spec] theorem labelNext_spec : ⦃⌜True⌝⦄ labelNext ⦃⇓? _ => ⌜True⌝⦄ := triple_true _

@[spec] theorem labeledStatement_spec :
    ⦃⌜True⌝⦄ r.labeledStatement ⦃⇓? n => ⌜n.WellShaped⌝⦄ := by
  mvcgen [labeledStatement] <;> simp_all

@[spec] theorem blockOrObject_spec : ⦃⌜True⌝⦄ r.blockOrObject ⦃⇓? n => ⌜n.WellShaped⌝⦄ := by
  refine either_spec ?_ r.expressionStatement_spec
  mvcgen
  simp_all

@[spec] theorem nameLedStatement_spec :
    ⦃⌜True⌝⦄ r.nameLedStatement ⦃⇓? n => ⌜n.WellShaped⌝⦄ := by
  mvcgen [nameLedStatement]

@[spec] theorem wordLedStatement_spec (start : Position) (word : String) :
    ⦃⌜True⌝⦄ r.wordLedStatement start word ⦃⇓? n => ⌜n.WellShaped⌝⦄ := by
  mvcgen [wordLedStatement] <;> simp_all

@[spec] theorem decoratedStatement_spec :
    ⦃⌜True⌝⦄ r.decoratedStatement ⦃⇓? n => ⌜n.WellShaped⌝⦄ := by
  mvcgen [decoratedStatement] <;> simp_all

@[spec] theorem statement_spec : ⦃⌜True⌝⦄ r.statement ⦃⇓? n => ⌜n.WellShaped⌝⦄ := by
  mvcgen [statement] <;> simp_all

end BlockAuthoring.Script.Rules
