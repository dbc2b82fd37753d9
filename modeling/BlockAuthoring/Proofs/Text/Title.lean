import BlockAuthoring.Text.Title

/-!
# Titles say something

Upper case never swallows a character, and a hyphen leaves a blank behind: the title of a name is
empty only if the name is.
-/

namespace BlockAuthoring.Text

theorem upper_ne_nil (c : Char) : upper c ≠ [] := by
  have hexpansions : ∀ e ∈ upperExpansions, e.2 ≠ [] := by decide
  unfold upper
  split
  · simp
  · split
    · rename_i e ns hfound
      simpa using hexpansions _ (List.mem_of_find?_eq_some hfound)
    · split <;> simp

theorem capitalized_ne_nil {part : List Char} (h : part ≠ []) : capitalized part ≠ [] := by
  cases part with
  | nil => exact absurd rfl h
  | cons c rest => simp [capitalized, upper_ne_nil]

theorem hyphenParts_ne_nil (name : List Char) : hyphenParts name ≠ [] := by
  fun_cases hyphenParts name <;> simp

/-- Of the parts of a name that is not empty, either the first one is not empty or there is another
one. -/
theorem hyphenParts_cons (c : Char) (rest : List Char) :
    ∃ part parts, hyphenParts (c :: rest) = part :: parts ∧ (part ≠ [] ∨ parts ≠ []) := by
  by_cases hc : c = '-'
  · subst hc
    exact ⟨[], hyphenParts rest, rfl, .inr (hyphenParts_ne_nil rest)⟩
  · cases hrest : hyphenParts rest with
    | nil => exact absurd hrest (hyphenParts_ne_nil rest)
    | cons part parts =>
      exact ⟨c :: part, parts, by simp [hyphenParts, hrest], .inl (by simp)⟩

theorem titleOf_ne_nil {name : List Char} (h : name ≠ []) : titleOf name ≠ [] := by
  cases name with
  | nil => exact absurd rfl h
  | cons c rest =>
    obtain ⟨part, parts, hparts, hsome⟩ := hyphenParts_cons c rest
    rw [titleOf, hparts, List.map_cons]
    cases parts with
    | nil =>
      -- The only part is the whole name.
      have hpart : part ≠ [] := by simpa using hsome
      simpa [List.intercalate] using capitalized_ne_nil hpart
    | cons next parts => simp [List.intercalate]

end BlockAuthoring.Text
