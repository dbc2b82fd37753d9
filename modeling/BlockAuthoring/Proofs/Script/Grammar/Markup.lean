import BlockAuthoring.Proofs.Script.Grammar.Rules

/-!
# Trees of markup

Nothing is promised of markup itself; but expressions in braces may stand in it, and they keep their
shape.
-/

namespace BlockAuthoring.Script.Rules

open Std.Do Reader

set_option mvcgen.warning false

@[spec] theorem rawChar?_spec : ⦃⌜True⌝⦄ rawChar? ⦃⇓? _ => ⌜True⌝⦄ := triple_true _

@[spec] theorem rawSkip_spec (n : Nat) : ⦃⌜True⌝⦄ rawSkip n ⦃⇓? _ => ⌜True⌝⦄ := triple_true _

@[spec] theorem tagEnd_spec (c : Char) : ⦃⌜True⌝⦄ tagEnd c ⦃⇓? _ => ⌜True⌝⦄ := triple_true _

@[spec] theorem markupName_spec (r : Rules) : ⦃⌜True⌝⦄ r.markupName ⦃⇓? n => ⌜n.WellShaped⌝⦄ := by
  have hpart : ⦃⌜True⌝⦄ (do let _ ← mark "."; leaf .jsxName scanMarkupName : Reader Node)
      ⦃⇓? n => ⌜n.WellShaped⌝⦄ := by
    mvcgen
    simp_all
  have hmany := many_spec r.bound hpart
  mvcgen [markupName, hmany] <;> simp_all

@[spec] theorem markupText_spec : ⦃⌜True⌝⦄ markupText ⦃⇓? n => ⌜n.WellShaped⌝⦄ := by
  mvcgen [markupText, node]
  simp

@[spec] theorem markupReference_spec : ⦃⌜True⌝⦄ markupReference ⦃⇓? n => ⌜n.WellShaped⌝⦄ := by
  mvcgen [markupReference, node, option_triple_true]
  simp

@[spec] theorem markupClosing_spec (r : Rules) :
    ⦃⌜True⌝⦄ r.markupClosing ⦃⇓? n => ⌜n.WellShaped⌝⦄ := by
  mvcgen [markupClosing, option_triple_true] <;> simp_all

variable (r : Rules) [r.Sound]

@[spec] theorem markupExpression_spec :
    ⦃⌜True⌝⦄ r.markupExpression ⦃⇓? n => ⌜n.WellShaped⌝⦄ := by
  mvcgen [markupExpression] <;> simp_all

@[spec] theorem markupAttribute_spec :
    ⦃⌜True⌝⦄ r.markupAttribute ⦃⇓? n => ⌜n.WellShaped⌝⦄ := by
  mvcgen [markupAttribute] <;> simp_all

@[spec] theorem markupChild_spec : ⦃⌜True⌝⦄ r.markupChild ⦃⇓? n => ⌜n.WellShaped⌝⦄ := by
  mvcgen [markupChild]
  simp_all

@[spec] theorem markup_spec :
    ⦃⌜True⌝⦄ r.markup ⦃⇓? n => ⌜n.WellShaped ∧ n.Covers⌝⦄ := by
  have hattributes := manyUntil_spec (do
    let c := (← upcoming true).head?
    require (c == some '>' || c == some '/')) r.bound r.markupAttribute_spec
  have hchildren := fun closes => manyUntil_spec closes r.bound r.markupChild_spec
  mvcgen [markup, hattributes, hchildren] <;> simp_all [or_imp]
  all_goals exact fun _ => Node.WellShaped.of_mem (And.left ‹_ ∧ _ = Kind.jsxOpeningElement›)

end BlockAuthoring.Script.Rules
