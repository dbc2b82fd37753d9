import Mathlib.Data.List.Forall2

/-!
# Collecting results

Steps that may fail are taken one after another, or one for each element of a list with the results
collected. That succeeds iff every step does.
-/

namespace BlockAuthoring

variable {α β ε : Type} {f : α → Except ε β}

theorem bind_eq_ok_iff {x : Except ε α} {y : β} :
    x >>= f = .ok y ↔ ∃ a, x = .ok a ∧ f a = .ok y := by
  cases x <;> simp [bind, Except.bind]

theorem mapError_eq_ok_iff {ε' : Type} {x : Except ε α} {cause : ε → ε'} {a : α} :
    x.mapError cause = .ok a ↔ x = .ok a := by
  cases x <;> simp [Except.mapError]

theorem mapM_eq_ok_iff (xs : List α) (ys : List β) :
    xs.mapM f = .ok ys ↔ List.Forall₂ (fun x y => f x = .ok y) xs ys := by
  induction xs generalizing ys with
  | nil => simp [pure, Except.pure, eq_comm]
  | cons x xs ih =>
    rw [List.mapM_cons, List.forall₂_cons_left_iff]
    simp only [← ih]
    cases f x with
    | error e => simp [bind, Except.bind]
    | ok y =>
      cases xs.mapM f <;> simp [bind, Except.bind, pure, Except.pure, eq_comm]

/-- Every result is the one of a step. -/
theorem exists_of_mem_mapM {xs : List α} {ys : List β} (h : xs.mapM f = .ok ys) {y : β}
    (hy : y ∈ ys) : ∃ x ∈ xs, f x = .ok y := by
  rw [mapM_eq_ok_iff] at h
  induction h with
  | nil => cases hy
  | cons hx _ ih =>
    rcases List.mem_cons.mp hy with rfl | hy
    · exact ⟨_, List.mem_cons_self, hx⟩
    · obtain ⟨x, hmem, hx⟩ := ih hy
      exact ⟨x, List.mem_cons_of_mem _ hmem, hx⟩

/-- If there is a result, every step has one. -/
theorem exists_of_mapM_eq_ok {xs : List α} {ys : List β} (h : xs.mapM f = .ok ys) {x : α}
    (hx : x ∈ xs) : ∃ y, f x = .ok y := by
  rw [mapM_eq_ok_iff] at h
  induction h with
  | nil => cases hx
  | cons hfirst _ ih =>
    rcases List.mem_cons.mp hx with rfl | hx
    · exact ⟨_, hfirst⟩
    · exact ih hx

/-- A failure is the one of the first step that fails. -/
theorem exists_of_mapM_eq_error {xs : List α} {e : ε} (h : xs.mapM f = .error e) :
    ∃ before x after, xs = before ++ x :: after ∧ f x = .error e
      ∧ ∀ x' ∈ before, ∃ y, f x' = .ok y := by
  induction xs with
  | nil => cases h
  | cons x xs ih =>
    cases hx : f x with
    | error e' =>
      rw [List.mapM_cons, hx] at h
      cases h
      exact ⟨[], x, xs, rfl, hx, by simp⟩
    | ok y =>
      have hrest : xs.mapM f = .error e := by
        cases hxs : xs.mapM f with
        | ok ys => simp [hx, hxs, bind, Except.bind, pure, Except.pure] at h
        | error e' => simpa [hx, hxs, bind, Except.bind] using h
      obtain ⟨before, x', after, rfl, hx', hbefore⟩ := ih hrest
      exact ⟨x :: before, x', after, rfl, hx', List.forall_mem_cons.mpr ⟨⟨y, hx⟩, hbefore⟩⟩

/-- Where no step gives nothing, nothing is left out. -/
theorem filterMapM_eq_mapM {f' : α → Except ε (Option β)} (xs : List α)
    (h : ∀ x ∈ xs, f' x = (f x).map some) : xs.filterMapM f' = xs.mapM f := by
  induction xs with
  | nil => rfl
  | cons x xs ih =>
    rw [List.forall_mem_cons] at h
    rw [List.filterMapM_cons, List.mapM_cons, h.1, ih h.2]
    cases f x <;> rfl

/-- If every step succeeds, the results are those of the steps. -/
theorem mapM_eq_ok_map {g : α → β} (xs : List α) (h : ∀ x ∈ xs, f x = .ok (g x)) :
    xs.mapM f = .ok (xs.map g) := by
  rw [mapM_eq_ok_iff, List.forall₂_map_right_iff, List.forall₂_same]
  exact h

end BlockAuthoring
