import BlockAuthoring.Script.Grammar
import Mathlib

/-!
# What readers give

A triple about a reader says what holds of whatever it gives, if it gives anything. Most readers
give no trees: of them nothing has to be said.
-/

namespace BlockAuthoring.Script.Reader

open Std.Do

set_option mvcgen.warning false

variable {α : Type}

theorem triple_iff {x : Reader α} {P : α → Prop} :
    ⦃⌜True⌝⦄ x ⦃⇓? a => ⌜P a⌝⦄ ↔ ∀ cursor a behind, x cursor = some (a, behind) → P a := by
  have hwp : ∀ cursor, (wp⟦x⟧ (⇓? a => ⌜P a⌝) cursor).down ↔
      ∀ a behind, x cursor = some (a, behind) → P a := by
    intro cursor
    change ((wp (x cursor)).apply (fun v => ⌜P v.1⌝, ExceptConds.true)).down ↔ _
    cases x cursor with
    | none =>
      change True ↔ _
      simp
    | some v =>
      change P v.1 ↔ _
      simp [Prod.ext_iff]
  constructor
  · intro h cursor
    exact (hwp cursor).mp (h cursor trivial)
  · intro h cursor _
    exact (hwp cursor).mpr (h cursor)

theorem triple_true (x : Reader α) : ⦃⌜True⌝⦄ x ⦃⇓? _ => ⌜True⌝⦄ :=
  triple_iff.mpr fun _ _ _ _ => trivial

/-- As `triple_iff`, where nothing is read. -/
theorem option_triple_iff {x : Option α} {Q : Prop} {P : α → Prop} :
    ⦃⌜Q⌝⦄ x ⦃⇓? a => ⌜P a⌝⦄ ↔ (Q → ∀ a, x = some a → P a) := by
  change (Q → ((wp x).apply (fun a => ⌜P a⌝, ExceptConds.true)).down) ↔ _
  cases x with
  | none =>
    change (Q → True) ↔ _
    simp
  | some a =>
    change (Q → P a) ↔ _
    simp

theorem option_triple_true (x : Option α) : ⦃⌜True⌝⦄ x ⦃⇓? _ => ⌜True⌝⦄ :=
  option_triple_iff.mpr fun _ _ _ => trivial

section Tokens

variable (m : String) (markup : Bool)

@[spec] theorem gap_spec : ⦃⌜True⌝⦄ gap markup ⦃⇓? _ => ⌜True⌝⦄ := triple_true _

@[spec] theorem here_spec : ⦃⌜True⌝⦄ here ⦃⇓? _ => ⌜True⌝⦄ := triple_true _

@[spec] theorem token_spec (scan : List Char → Lexis.Split) :
    ⦃⌜True⌝⦄ token scan markup ⦃⇓? _ => ⌜True⌝⦄ := triple_true _

@[spec] theorem upcoming_spec : ⦃⌜True⌝⦄ upcoming markup ⦃⇓? _ => ⌜True⌝⦄ := triple_true _

@[spec] theorem word?_spec : ⦃⌜True⌝⦄ word? markup ⦃⇓? _ => ⌜True⌝⦄ := triple_true _

@[spec] theorem mark?_spec : ⦃⌜True⌝⦄ mark? markup ⦃⇓? _ => ⌜True⌝⦄ := triple_true _

@[spec] theorem mark_spec : ⦃⌜True⌝⦄ mark m markup ⦃⇓? _ => ⌜True⌝⦄ := triple_true _

@[spec] theorem accept_spec : ⦃⌜True⌝⦄ accept m markup ⦃⇓? _ => ⌜True⌝⦄ := triple_true _

@[spec] theorem keyword_spec : ⦃⌜True⌝⦄ keyword m ⦃⇓? _ => ⌜True⌝⦄ := triple_true _

@[spec] theorem acceptWord_spec : ⦃⌜True⌝⦄ acceptWord m ⦃⇓? _ => ⌜True⌝⦄ := triple_true _

@[spec] theorem nextStart_spec : ⦃⌜True⌝⦄ nextStart ⦃⇓? _ => ⌜True⌝⦄ := triple_true _

@[spec] theorem mayEnd_spec : ⦃⌜True⌝⦄ mayEnd ⦃⇓? _ => ⌜True⌝⦄ := triple_true _

@[spec] theorem semicolon_spec : ⦃⌜True⌝⦄ semicolon ⦃⇓? _ => ⌜True⌝⦄ := triple_true _

@[spec] theorem moveTo_spec (cursor : Cursor) : ⦃⌜True⌝⦄ moveTo cursor ⦃⇓? _ => ⌜True⌝⦄ :=
  triple_true _

@[spec] theorem ahead_spec (x : Reader α) : ⦃⌜True⌝⦄ ahead x ⦃⇓? _ => ⌜True⌝⦄ := triple_true _

@[spec] theorem comesNext_spec (x : Reader α) : ⦃⌜True⌝⦄ comesNext x ⦃⇓? _ => ⌜True⌝⦄ :=
  triple_true _

@[spec] theorem require_spec (condition : Bool) :
    ⦃⌜True⌝⦄ require condition ⦃⇓? _ => ⌜condition = true⌝⦄ := by
  refine triple_iff.mpr fun cursor a behind h => ?_
  cases condition with
  | true => rfl
  | false => cases h

end Tokens

/-! ## Choices and lists -/

theorem either_spec {first second : Reader α} {P : α → Prop}
    (hfirst : ⦃⌜True⌝⦄ first ⦃⇓? a => ⌜P a⌝⦄) (hsecond : ⦃⌜True⌝⦄ second ⦃⇓? a => ⌜P a⌝⦄) :
    ⦃⌜True⌝⦄ either first second ⦃⇓? a => ⌜P a⌝⦄ := by
  rw [triple_iff] at *
  intro cursor a behind h
  unfold either at h
  split at h
  · cases h
    exact hfirst _ _ _ ‹_›
  · exact hsecond _ _ _ h

theorem many_spec {item : Reader α} {P : α → Prop} (bound : Nat)
    (hitem : ⦃⌜True⌝⦄ item ⦃⇓? a => ⌜P a⌝⦄) :
    ⦃⌜True⌝⦄ many item bound ⦃⇓? found => ⌜∀ a ∈ found, P a⌝⦄ := by
  rw [triple_iff] at *
  induction bound with
  | zero =>
    intro cursor found behind h
    cases h
    simp
  | succ bound ih =>
    intro cursor found behind h
    unfold many at h
    split at h
    · cases h
      simp
    · split at h
      · cases h
      · cases h
        exact List.forall_mem_cons.mpr ⟨hitem _ _ _ ‹_›, ih _ _ _ ‹_›⟩

theorem manyUntil_spec {item : Reader α} {P : α → Prop} (stop : Reader Unit) (bound : Nat)
    (hitem : ⦃⌜True⌝⦄ item ⦃⇓? a => ⌜P a⌝⦄) :
    ⦃⌜True⌝⦄ manyUntil stop item bound ⦃⇓? found => ⌜∀ a ∈ found, P a⌝⦄ := by
  rw [triple_iff] at *
  induction bound with
  | zero =>
    intro cursor found behind h
    cases h
  | succ bound ih =>
    intro cursor found behind h
    unfold manyUntil at h
    split at h
    · cases h
      simp
    · split at h
      · cases h
      · split at h
        · cases h
        · cases h
          exact List.forall_mem_cons.mpr ⟨hitem _ _ _ ‹_›, ih _ _ _ ‹_›⟩

theorem forall_mem_filterMap_id {found : List (Option α)} {P : α → Prop}
    (h : ∀ a ∈ found, ∀ n ∈ a, P n) : ∀ n ∈ found.filterMap id, P n := by
  simpa using fun n hn => h _ hn n rfl

end BlockAuthoring.Script.Reader
