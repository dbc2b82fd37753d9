import BlockAuthoring.Project.Setup
import BlockAuthoring.Proofs.Association

/-!
# Reports on the set-up of a project

What a report says comes from its findings: its errors and warnings are texts of findings, and each
finding is noted under one key.
-/

namespace BlockAuthoring

/-! ## Texts -/

namespace Finding

/-- What a finding says, if it says anything. -/
def text : Finding → String
  | check c => c.complaint
  | broken complaint => complaint

theorem text_eq_of_complaint? {f : Finding} {weight : Weight} {t : String}
    (h : f.complaint? weight = some t) : f.text = t := by
  cases f with
  | check c =>
    rw [complaint?] at h
    split at h <;> cases h
    rfl
  | broken complaint =>
    rw [complaint?] at h
    split at h <;> cases h
    rfl

/-- A piece that is there is not complained of. -/
theorem complaint?_of_passed {c : SetupCheck} (h : c.passed = true) (weight : Weight) :
    (check c).complaint? weight = none := by
  rw [complaint?, h]
  rfl

end Finding

theorem SetupReport.mem_errors_iff {r : SetupReport} {t : String} :
    t ∈ r.errors ↔ ∃ f ∈ r.findings, f.complaint? .error = some t := List.mem_filterMap

theorem SetupReport.mem_warnings_iff {r : SetupReport} {t : String} :
    t ∈ r.warnings ↔ ∃ f ∈ r.findings, f.complaint? .warning = some t := List.mem_filterMap

/-! ## Keys -/

namespace Finding

/-- The key that a finding is noted under. -/
def key : Finding → Option String
  | check c => some (c.group.getD c.name)
  | broken _ => none

variable {checks : List (String × Json)} {k : String}

theorem lookup_noteIn_of_ne {f : Finding} (h : f.key ≠ some k) :
    (noteIn checks f).lookup k = checks.lookup k := by
  cases f with
  | broken complaint => rfl
  | check c =>
    have hk : ∀ v, (Json.setMember checks (c.group.getD c.name) v).lookup k = checks.lookup k := by
      intro v
      rw [Json.lookup_setMember, if_neg]
      rw [beq_iff_eq]
      rintro rfl
      exact h rfl
    rw [noteIn]
    split
    · rename_i hgroup
      simpa [hgroup] using hk (.bool c.passed)
    · rename_i group hgroup
      rw [hgroup] at hk
      split
      · exact hk _
      · exact hk _

/-- What is noted under a key depends on what stood there, and not on what stood under others. -/
theorem lookup_noteIn_congr {checks' : List (String × Json)} {f : Finding}
    (h : checks.lookup k = checks'.lookup k) :
    (noteIn checks f).lookup k = (noteIn checks' f).lookup k := by
  by_cases hkey : f.key = some k
  · cases f with
    | broken complaint => exact h
    | check c =>
      cases hgroup : c.group with
      | none => simp [noteIn, hgroup, Json.lookup_setMember, h]
      | some group =>
        obtain rfl : group = k := by simpa [key, hgroup] using hkey
        simp only [noteIn, hgroup, h]
        split <;> simp [Json.lookup_setMember]
  · rw [lookup_noteIn_of_ne hkey, lookup_noteIn_of_ne hkey, h]

/-- What is noted under a key comes from the findings of that key alone. -/
theorem lookup_notes_filter (fs : List Finding) {checks' : List (String × Json)}
    (h : checks.lookup k = checks'.lookup k) :
    (fs.foldl noteIn checks).lookup k
      = ((fs.filter fun f => f.key = some k).foldl noteIn checks').lookup k := by
  induction fs generalizing checks checks' with
  | nil => exact h
  | cons f fs ih =>
    by_cases hkey : f.key = some k
    · rw [List.filter_cons_of_pos (by simpa using hkey), List.foldl_cons, List.foldl_cons]
      exact ih (lookup_noteIn_congr h)
    · rw [List.filter_cons_of_neg (by simpa using hkey), List.foldl_cons]
      exact ih ((lookup_noteIn_of_ne hkey).trans h)

end Finding

end BlockAuthoring
