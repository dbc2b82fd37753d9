import BlockAuthoring.Proofs.Script.Reader
import BlockAuthoring.Proofs.Script.Target

/-!
# Trees of names and parameters

One triple for each rule. Every rule gives trees of the right shape, if the rules for the constructs
inside do; and what is read as an expression covers the patterns that it may turn out to be.
-/

namespace BlockAuthoring.Script

open Std.Do Reader

set_option mvcgen.warning false

/-- What is read for the goal is an expression. -/
@[simp] def Goal.isExpression : Goal → Bool
  | .statement | .block => false
  | _ => true

/-- What is read for a goal has the shape of a tree, and an expression covers patterns. -/
@[simp] def Node.Fits (goal : Goal) (n : Node) : Prop :=
  n.WellShaped ∧ (goal.isExpression = true → n.Covers)

/-- The rules for the constructs inside give what fits. -/
class Rules.Sound (r : Rules) : Prop where
  read : ∀ goal, ⦃⌜True⌝⦄ r.read goal ⦃⇓? n => ⌜n.Fits goal⌝⦄

@[spec] theorem Reader.leaf_spec (kind : Kind) (scan : List Char → Lexis.Split) (markup : Bool) :
    ⦃⌜True⌝⦄ leaf kind scan markup
    ⦃⇓? n => ⌜n.WellShaped ∧ n.kind = kind ∧ n.role = .plain ∧ n.children = []⌝⦄ := by
  mvcgen [leaf]
  simp

@[spec] theorem Reader.node_spec (kind : Kind) (start : Position) (children : List Node) :
    ⦃⌜Node.Shape kind children ∧ ∀ c ∈ children, c.WellShaped⌝⦄ node kind start children
    ⦃⇓? n => ⌜n.WellShaped ∧ n.kind = kind⌝⦄ := by
  mvcgen [node]
  exact Node.wellShaped_mk.mpr ‹_›

namespace Rules

@[spec] theorem identifier_spec (kind : Kind) :
    ⦃⌜True⌝⦄ identifier kind
    ⦃⇓? n => ⌜n.WellShaped ∧ n.kind = kind ∧ n.role = .plain ∧ n.children = []⌝⦄ := by
  mvcgen [identifier]

/-! ## Lists -/

section Lists

variable {one : Reader Node} {P : Node → Prop}

theorem item_spec (close : String) (hone : ⦃⌜True⌝⦄ one ⦃⇓? n => ⌜P n⌝⦄) :
    ⦃⌜True⌝⦄ item close one ⦃⇓? n => ⌜P n⌝⦄ := by
  mvcgen [item, hone]

theorem items_spec (r : Rules) (close : String) (hone : ⦃⌜True⌝⦄ one ⦃⇓? n => ⌜P n⌝⦄) :
    ⦃⌜True⌝⦄ r.items close one ⦃⇓? ns => ⌜∀ n ∈ ns, P n⌝⦄ :=
  manyUntil_spec _ _ (item_spec close hone)

theorem sparseItems_spec (r : Rules) (close : String) (hone : ⦃⌜True⌝⦄ one ⦃⇓? n => ⌜P n⌝⦄) :
    ⦃⌜True⌝⦄ r.sparseItems close one ⦃⇓? ns => ⌜∀ n ∈ ns, P n⌝⦄ := by
  have hitem := item_spec close hone
  have helement : ⦃⌜True⌝⦄ (do
      if ← accept "," true then return none
      return some (← item close one) : Reader (Option Node))
      ⦃⇓? found => ⌜∀ n ∈ found, P n⌝⦄ := by
    mvcgen [hitem] <;> simp_all
  have hmany := manyUntil_spec (discard (mark close)) r.bound helement
  mvcgen [sparseItems, hmany]
  exact forall_mem_filterMap_id ‹_›

end Lists

variable (r : Rules) [r.Sound]

@[spec] theorem read_spec (goal : Goal) : ⦃⌜True⌝⦄ r.read goal ⦃⇓? n => ⌜n.Fits goal⌝⦄ :=
  Sound.read goal

theorem read_wellShaped (goal : Goal) : ⦃⌜True⌝⦄ r.read goal ⦃⇓? n => ⌜n.WellShaped⌝⦄ := by
  mvcgen
  simp_all

@[spec] theorem expressions_spec : ⦃⌜True⌝⦄ r.expressions ⦃⇓? n => ⌜n.WellShaped⌝⦄ := by
  have hone : ⦃⌜True⌝⦄ (do let _ ← mark "," false; r.read (.assignment true) : Reader Node)
      ⦃⇓? n => ⌜n.WellShaped⌝⦄ := by
    mvcgen
    simp_all
  have hmany := many_spec r.bound hone
  mvcgen [expressions, node, hmany] <;> simp_all

@[spec] theorem parenthesized_spec : ⦃⌜True⌝⦄ r.parenthesized ⦃⇓? n => ⌜n.WellShaped⌝⦄ := by
  mvcgen [parenthesized, node]
  simp_all

@[spec] theorem privateName_spec :
    ⦃⌜True⌝⦄ privateName ⦃⇓? n => ⌜n.WellShaped ∧ n.kind = .privateName⌝⦄ := by
  mvcgen [privateName]
  simp_all +contextual

@[spec] theorem memberName_spec : ⦃⌜True⌝⦄ r.memberName
    ⦃⇓? n => ⌜n.WellShaped
      ∧ (n.kind = .propertyName → n.role = .plain ∧ n.children = [])⌝⦄ := by
  mvcgen [memberName, node] <;> simp_all +contextual

/-! ## Parameters -/

@[spec] theorem spread_spec : ⦃⌜True⌝⦄ r.spread
    ⦃⇓? n => ⌜n.WellShaped ∧ n.CoversElement ∧ n.CoversMember⌝⦄ := by
  mvcgen [spread, node]
  simp_all [Node.coversElement_spread, Node.coversMember_spread]

@[spec] theorem spreadOrCover_spec :
    ⦃⌜True⌝⦄ r.spreadOrCover ⦃⇓? n => ⌜n.WellShaped ∧ n.CoversElement⌝⦄ := by
  mvcgen [spreadOrCover] <;> simp_all [Node.Covers.coversElement]

@[spec] theorem patterns_spec (ns : List Node) :
    ⦃⌜∀ n ∈ ns, n.WellShaped⌝⦄ ns.mapM Node.toElement?
    ⦃⇓? ps => ⌜∀ p ∈ ps, p.WellShaped⌝⦄ := by
  refine option_triple_iff.mpr fun hns ps hps p hp => ?_
  obtain ⟨n, hn, hnp⟩ := Node.exists_of_mapM_eq_some hps p hp
  exact (Node.wellShaped_of_covering n (hns n hn)).2.1 p hnp

@[spec] theorem parameters_spec : ⦃⌜True⌝⦄ r.parameters ⦃⇓? n => ⌜n.WellShaped⌝⦄ := by
  have hentries := r.items_spec ")" r.spreadOrCover_spec
  mvcgen [parameters, hentries] <;> simp_all

@[spec] theorem signatureAndBody_spec :
    ⦃⌜True⌝⦄ r.signatureAndBody ⦃⇓? ns => ⌜∀ n ∈ ns, n.WellShaped⌝⦄ := by
  mvcgen [signatureAndBody]
  simp_all

end Rules

end BlockAuthoring.Script
