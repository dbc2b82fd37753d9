import BlockAuthoring.Proofs.Script.Grammar.Markup

/-!
# Trees of expressions

A rule that is handed finished trees gives well-shaped ones if those are, and so does what is turned
into a pattern once an arrow or a `=` is seen. What a rule gives as an expression covers patterns,
most often because of its kind.
-/

namespace BlockAuthoring.Script.Rules

open Std.Do Reader

set_option mvcgen.warning false

variable (r : Rules) [r.Sound]

/-! ## Functions and classes -/

@[simp] theorem isShaped_functionKind (declares star : Bool) :
    Node.isShaped (functionKind declares star) = false := by
  cases declares <;> cases star <;> rfl

@[simp] theorem isOpenKind_functionKind (declares star : Bool) :
    Node.isOpenKind (functionKind declares star) = false := by
  cases declares <;> cases star <;> rfl

@[spec] theorem functionFrom_spec (declares : Bool) :
    ⦃⌜True⌝⦄ r.functionFrom declares ⦃⇓? n => ⌜n.WellShaped ∧ n.Covers⌝⦄ := by
  mvcgen [functionFrom] <;> simp_all [or_imp]

@[spec] theorem decorator_spec : ⦃⌜True⌝⦄ r.decorator ⦃⇓? n => ⌜n.WellShaped⌝⦄ := by
  have hpart : ⦃⌜True⌝⦄ (do let _ ← mark "." false; leaf .propertyName Lexis.scanName : Reader Node)
      ⦃⇓? n => ⌜n.WellShaped⌝⦄ := by
    mvcgen
    simp_all
  have hmany := many_spec r.bound hpart
  have hargument : ⦃⌜True⌝⦄ (do
      if (← mark? true) == some "..." then
        let s ← mark "..."
        node .spreadElement s [← r.read (.assignment true)]
      else r.read (.assignment true) : Reader Node) ⦃⇓? n => ⌜n.WellShaped⌝⦄ := by
    mvcgen  <;> simp_all
  have hitems := r.sparseItems_spec ")" hargument
  mvcgen [decorator, hmany, hitems] <;> simp_all [or_imp]

@[spec] theorem decorators_spec :
    ⦃⌜True⌝⦄ r.decorators ⦃⇓? ns => ⌜∀ n ∈ ns, n.WellShaped⌝⦄ :=
  manyUntil_spec _ _ r.decorator_spec

@[spec] theorem methodFrom_spec (start : Position) (front : List Node) (name : Node) :
    ⦃⌜name.WellShaped ∧ ∀ n ∈ front, n.WellShaped⌝⦄ r.methodFrom start front name
    ⦃⇓? n => ⌜n.WellShaped ∧ n.kind = .methodDefinition⌝⦄ := by
  mvcgen [methodFrom]
  simp_all [or_imp]

@[spec] theorem methodModifiers_spec (onOneLine : Bool) :
    ⦃⌜True⌝⦄ methodModifiers onOneLine ⦃⇓? _ => ⌜True⌝⦄ :=
  triple_true _

@[spec] theorem modifier_spec (word : String) (onOneLine : Bool) (follows : List Char → Bool) :
    ⦃⌜True⌝⦄ modifier word onOneLine follows ⦃⇓? _ => ⌜True⌝⦄ :=
  triple_true _

@[spec] theorem staticBlock_spec : ⦃⌜True⌝⦄ r.staticBlock ⦃⇓? n => ⌜n.WellShaped⌝⦄ := by
  mvcgen [staticBlock] <;> simp_all

@[spec] theorem classMember_spec : ⦃⌜True⌝⦄ r.classMember ⦃⇓? n => ⌜n.WellShaped⌝⦄ := by
  mvcgen [classMember] <;> simp_all [or_imp]

@[spec] theorem classBody_spec : ⦃⌜True⌝⦄ r.classBody ⦃⇓? n => ⌜n.WellShaped⌝⦄ := by
  have heither := either_spec r.staticBlock_spec r.classMember_spec
  have hmember : ⦃⌜True⌝⦄ (do
      if ← accept ";" true then return none
      return some (← either r.staticBlock r.classMember) : Reader (Option Node))
      ⦃⇓? found => ⌜∀ n ∈ found, n.WellShaped⌝⦄ := by
    mvcgen [heither] <;> simp_all
  have hmembers := manyUntil_spec (discard (mark "\x7d")) r.bound hmember
  mvcgen [classBody, hmembers]
  · exact ⟨by simp, forall_mem_filterMap_id ‹_›⟩
  · simp_all

@[spec] theorem classFrom_spec (kind : Kind) (start : Position) (front : List Node) :
    ⦃⌜Node.isShaped kind = false ∧ Node.isOpenKind kind = false ∧ ∀ n ∈ front, n.WellShaped⌝⦄
    r.classFrom kind start front ⦃⇓? n => ⌜n.WellShaped ∧ n.Covers⌝⦄ := by
  mvcgen [classFrom] <;> simp_all [or_imp]

@[spec] theorem classExpression_spec :
    ⦃⌜True⌝⦄ r.classExpression ⦃⇓? n => ⌜n.WellShaped ∧ n.Covers⌝⦄ := by
  mvcgen [classExpression]

/-! ## Literals -/

@[spec] theorem templateParts_spec (bound : Nat) :
    ⦃⌜True⌝⦄ r.templateParts bound ⦃⇓? ns => ⌜∀ n ∈ ns, n.WellShaped⌝⦄ := by
  induction bound with
  | zero =>
    mvcgen [templateParts]
  | succ bound ih =>
    mvcgen [templateParts, option_triple_true, ih] <;> simp_all

@[spec] theorem template_spec : ⦃⌜True⌝⦄ r.template ⦃⇓? n => ⌜n.WellShaped ∧ n.Covers⌝⦄ := by
  mvcgen [template]
  simp_all

@[spec] theorem array_spec :
    ⦃⌜True⌝⦄ r.array ⦃⇓? n => ⌜n.WellShaped ∧ n.Covers ∧ n.kind = .array⌝⦄ := by
  have helements := r.sparseItems_spec "]" r.spreadOrCover_spec
  mvcgen [array, node, helements]
  simp_all [Node.covers_array]

@[spec] theorem patternMember_spec :
    ⦃⌜True⌝⦄ r.patternMember ⦃⇓? n => ⌜n.WellShaped ∧ n.CoversMember⌝⦄ := by
  mvcgen [patternMember]
  simp_all [Node.WellShaped.withKind, Node.Covers.coversMember_keyless]

@[spec] theorem namedMember_spec :
    ⦃⌜True⌝⦄ r.namedMember ⦃⇓? n => ⌜n.WellShaped ∧ n.CoversMember⌝⦄ := by
  mvcgen [namedMember, node]
  all_goals simp_all +zetaDelta [Node.coversMember_of_kind, Node.coversMember_pair,
    Node.coversMember_shorthand, Node.coversMember_default]

@[spec] theorem objectMember_spec :
    ⦃⌜True⌝⦄ r.objectMember ⦃⇓? n => ⌜n.WellShaped ∧ n.CoversMember⌝⦄ :=
  either_spec r.namedMember_spec r.patternMember_spec

@[spec] theorem object_spec :
    ⦃⌜True⌝⦄ r.object ⦃⇓? n => ⌜n.WellShaped ∧ n.Covers ∧ n.kind = .object⌝⦄ := by
  have hmembers := r.sparseItems_spec "\x7d" r.objectMember_spec
  mvcgen [object, node, hmembers]
  simp_all [Node.covers_object]

/-! ## Arrow functions -/

@[spec] theorem arrowFrom_spec (start : Position) (ps : Node) :
    ⦃⌜ps.WellShaped⌝⦄ r.arrowFrom start ps ⦃⇓? n => ⌜n.WellShaped ∧ n.Covers⌝⦄ := by
  mvcgen [arrowFrom] <;> simp_all

@[spec] theorem coverEntry_spec :
    ⦃⌜True⌝⦄ r.coverEntry ⦃⇓? entry => ⌜entry.1.WellShaped⌝⦄ := by
  mvcgen [coverEntry] <;> simp_all

@[spec] theorem parenthesizedOrArrow_spec :
    ⦃⌜True⌝⦄ r.parenthesizedOrArrow ⦃⇓? n => ⌜n.WellShaped ∧ n.Covers⌝⦄ := by
  have hentries : ⦃⌜True⌝⦄ manyUntil (discard (mark ")")) r.coverEntry r.bound
      ⦃⇓? found => ⌜∀ n ∈ found.map (·.1), n.WellShaped⌝⦄ := by
    simpa only [List.forall_mem_map]
      using manyUntil_spec (discard (mark ")")) r.bound r.coverEntry_spec
  mvcgen [parenthesizedOrArrow, hentries]
  case vc4 => exact ⟨by simp, ‹_ = [_]› ▸ ‹∀ n ∈ List.map _ _, _›⟩
  case vc6 => exact ⟨by simp, ‹_ = (_ : List Node)› ▸ ‹∀ n ∈ List.map _ _, _›⟩
  all_goals simp_all

@[spec] theorem nameOrArrow_spec :
    ⦃⌜True⌝⦄ r.nameOrArrow ⦃⇓? n => ⌜n.WellShaped ∧ n.Covers⌝⦄ := by
  unfold nameOrArrow
  -- The word only decides the kind of the leaf, and is not to be spelled out on the way.
  generalize hword : "undefined".toList = undefined
  mvcgen
  case vc2 hleaf _ _ _ =>
    obtain ⟨hshaped, hkind, hrole, hchildren⟩ := hleaf
    refine ⟨?_, hword ▸ Node.covers_of_leaf hkind hrole hchildren⟩
    split
    · exact Node.wellShaped_withKind hchildren
    · exact hshaped
  all_goals simp_all

@[spec] theorem asyncOperand_spec : ⦃⌜True⌝⦄ r.asyncOperand ⦃⇓? n => ⌜n.WellShaped ∧ n.Covers⌝⦄ := by
  mvcgen [asyncOperand]
  simp_all

/-! ## Operands -/

@[spec] theorem newOperand_spec : ⦃⌜True⌝⦄ r.newOperand ⦃⇓? n => ⌜n.WellShaped ∧ n.Covers⌝⦄ := by
  have harguments := r.sparseItems_spec ")" r.spreadOrCover_spec
  mvcgen [newOperand, harguments] <;> simp_all

@[spec] theorem importOperand_spec : ⦃⌜True⌝⦄ importOperand ⦃⇓? n => ⌜n.WellShaped ∧ n.Covers⌝⦄ := by
  mvcgen [importOperand] <;> simp_all

@[spec] theorem operand_spec : ⦃⌜True⌝⦄ r.operand ⦃⇓? n => ⌜n.WellShaped ∧ n.Covers⌝⦄ := by
  mvcgen [operand] <;> simp_all

@[spec] theorem memberAfterDot_spec : ⦃⌜True⌝⦄ memberAfterDot ⦃⇓? n => ⌜n.WellShaped⌝⦄ := by
  mvcgen [memberAfterDot] <;> simp_all

@[spec] theorem argumentList_spec :
    ⦃⌜True⌝⦄ r.argumentList ⦃⇓? list => ⌜∀ n ∈ list.2, n.WellShaped⌝⦄ := by
  have harguments := r.sparseItems_spec ")" r.spreadOrCover_spec
  mvcgen [argumentList, harguments]
  simp_all

@[spec] theorem suffixes_spec (calls : Bool) (bound : Nat) (base : Node) :
    ⦃⌜base.WellShaped ∧ base.Covers⌝⦄ r.suffixes calls bound base
    ⦃⇓? n => ⌜n.WellShaped ∧ n.Covers⌝⦄ := by
  induction bound generalizing base with
  | zero =>
    mvcgen [suffixes]
  | succ bound ih =>
    mvcgen [suffixes, operation, ih] <;> simp_all

@[spec] theorem suffixed_spec : ⦃⌜True⌝⦄ r.suffixed ⦃⇓? n => ⌜n.WellShaped ∧ n.Covers⌝⦄ := by
  mvcgen [suffixed]

@[spec] theorem constructed_spec : ⦃⌜True⌝⦄ r.constructed ⦃⇓? n => ⌜n.WellShaped ∧ n.Covers⌝⦄ := by
  mvcgen [constructed]

/-! ## Operators -/

@[spec] theorem postfixUpdates_spec (bound : Nat) (n : Node) :
    ⦃⌜n.WellShaped ∧ n.Covers⌝⦄ postfixUpdates bound n ⦃⇓? n => ⌜n.WellShaped ∧ n.Covers⌝⦄ := by
  induction bound generalizing n with
  | zero =>
    mvcgen [postfixUpdates]
  | succ bound ih =>
    mvcgen [postfixUpdates, operation, ih] <;> simp_all

theorem wordOperator_spec {asOperator asName : Reader Node} {P : Node → Prop} (word : String)
    (hoperator : ⦃⌜True⌝⦄ asOperator ⦃⇓? n => ⌜P n⌝⦄)
    (hname : ⦃⌜True⌝⦄ asName ⦃⇓? n => ⌜P n⌝⦄) :
    ⦃⌜True⌝⦄ wordOperator asOperator asName word ⦃⇓? n => ⌜P n⌝⦄ := by
  have heither := either_spec hoperator hname
  mvcgen [wordOperator, hoperator, hname, heither]

@[spec] theorem awaitOperation_spec :
    ⦃⌜True⌝⦄ r.awaitOperation ⦃⇓? n => ⌜n.WellShaped ∧ n.Covers⌝⦄ := by
  mvcgen [awaitOperation, operation] <;> simp_all

@[spec] theorem unary_spec : ⦃⌜True⌝⦄ r.unary ⦃⇓? n => ⌜n.WellShaped ∧ n.Covers⌝⦄ := by
  have hplain : ⦃⌜True⌝⦄ (do let n ← r.suffixed; postfixUpdates r.bound n : Reader Node)
      ⦃⇓? n => ⌜n.WellShaped ∧ n.Covers⌝⦄ := by
    mvcgen
  have hawait := wordOperator_spec "await" r.awaitOperation_spec hplain
  mvcgen [unary, operation, hawait] <;> simp_all

@[spec] theorem acceptBinaryOperator_spec (allowIn : Bool) :
    ⦃⌜True⌝⦄ acceptBinaryOperator allowIn ⦃⇓? _ => ⌜True⌝⦄ :=
  triple_true _

@[spec] theorem binaryOperand_spec :
    ⦃⌜True⌝⦄ r.binaryOperand ⦃⇓? n => ⌜n.WellShaped ∧ n.Covers⌝⦄ := by
  mvcgen [binaryOperand] <;> simp_all

@[spec] theorem binaryRest_spec (allowIn : Bool) (bound : Nat) :
    ⦃⌜True⌝⦄ r.binaryRest allowIn bound ⦃⇓? ns => ⌜∀ n ∈ ns, n.WellShaped⌝⦄ := by
  induction bound with
  | zero =>
    mvcgen [binaryRest]
    simp
  | succ bound ih =>
    mvcgen [binaryRest, ih] <;> simp_all

@[spec] theorem binary_spec (allowIn : Bool) :
    ⦃⌜True⌝⦄ r.binary allowIn ⦃⇓? n => ⌜n.WellShaped ∧ n.Covers⌝⦄ := by
  mvcgen [binary, operation] <;> simp_all

@[spec] theorem ternary_spec (allowIn : Bool) :
    ⦃⌜True⌝⦄ r.ternary allowIn ⦃⇓? n => ⌜n.WellShaped ∧ n.Covers⌝⦄ := by
  mvcgen [ternary, operation] <;> simp_all

@[spec] theorem yieldOperation_spec (allowIn : Bool) :
    ⦃⌜True⌝⦄ r.yieldOperation allowIn ⦃⇓? n => ⌜n.WellShaped ∧ n.Covers⌝⦄ := by
  mvcgen [yieldOperation, operation] <;> simp_all

@[spec] theorem toTarget?_spec (n : Node) :
    ⦃⌜n.WellShaped ∧ n.Covers⌝⦄ n.toTarget?
    ⦃⇓? t => ⌜t.WellShaped ∧ (t.kind ≠ .parenthesizedExpression → t.PatternOf Node.IsBinder)⌝⦄ :=
  option_triple_iff.mpr fun hn _ ht =>
    ⟨Node.wellShaped_of_toTarget? ht hn.1, hn.2.target_of_toTarget? ht⟩

@[spec] theorem cover_spec (allowIn : Bool) :
    ⦃⌜True⌝⦄ r.cover allowIn ⦃⇓? n => ⌜n.WellShaped ∧ n.Covers⌝⦄ := by
  unfold cover
  extract_lets plain
  have hplain : ⦃⌜True⌝⦄ plain ⦃⇓? n => ⌜n.WellShaped ∧ n.Covers⌝⦄ := by
    mvcgen [plain, node, -node_spec] <;> simp_all [Node.Covers.assignment]
  have heither := either_spec (r.yieldOperation_spec allowIn) hplain
  have hword := wordOperator_spec "yield" (r.yieldOperation_spec allowIn) hplain
  -- From here on only `hplain` is known of it, so that it is not gone through once more.
  clear_value plain
  mvcgen [hplain, heither, hword]

@[spec] theorem assignment_spec (allowIn : Bool) :
    ⦃⌜True⌝⦄ r.assignment allowIn ⦃⇓? n => ⌜n.WellShaped ∧ n.Covers⌝⦄ := by
  mvcgen [assignment]
  simp_all

end BlockAuthoring.Script.Rules
