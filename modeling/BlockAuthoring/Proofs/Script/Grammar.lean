import BlockAuthoring.Proofs.Script.Grammar.Statement
import BlockAuthoring.Script.Grammar

/-!
# Trees of scripts

The rules are sound however deep they are nested, so the tree of every script has the shape of a
tree.
-/

namespace BlockAuthoring.Script

open Std.Do Reader

set_option mvcgen.warning false

namespace Rules

theorem rule_spec (r : Rules) [r.Sound] (goal : Goal) :
    ⦃⌜True⌝⦄ r.rule goal ⦃⇓? n => ⌜n.Fits goal⌝⦄ := by
  cases goal
  all_goals
    mvcgen [rule]
    simp_all

end Rules

/-- A goal that may nest one deeper is read by the rules over what may nest less deep. -/
theorem readGoal_spec (fuel : Nat) (goal : Goal) :
    ⦃⌜True⌝⦄ readGoal fuel goal ⦃⇓? n => ⌜n.Fits goal⌝⦄ := by
  induction fuel generalizing goal with
  | zero => exact triple_iff.mpr fun cursor n behind h => nomatch h
  | succ fuel ih =>
    have : Rules.Sound ⟨fuel, readGoal fuel⟩ := ⟨ih⟩
    exact Rules.rule_spec ⟨fuel, readGoal fuel⟩ goal

@[spec] theorem hashBang_spec : ⦃⌜True⌝⦄ hashBang ⦃⇓? ns => ⌜∀ n ∈ ns, n.WellShaped⌝⦄ := by
  refine triple_iff.mpr fun cursor ns behind h => ?_
  unfold hashBang at h
  split at h
  · cases h
    simp
  · cases h
    simp

theorem program_spec (fuel : Nat) : ⦃⌜True⌝⦄ program fuel ⦃⇓? n => ⌜n.WellShaped⌝⦄ := by
  have : Rules.Sound ⟨fuel, readGoal fuel⟩ := ⟨readGoal_spec fuel⟩
  have hstatements := fun stop =>
    manyUntil_spec stop fuel (Rules.read_wellShaped ⟨fuel, readGoal fuel⟩ .statement)
  mvcgen [program, hstatements] <;> simp_all [or_imp]

/-- The tree of a script has the shape of a tree. -/
theorem wellShaped_of_parse? {text : List Char} {root : Node} (h : parse? text = some root) :
    root.WellShaped := by
  obtain ⟨⟨n, behind⟩, hread, rfl⟩ := Option.map_eq_some_iff.mp h
  exact triple_iff.mp (program_spec _) _ _ _ hread

end BlockAuthoring.Script
