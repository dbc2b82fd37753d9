import BlockAuthoring.Proofs.Analysis.Outcome
import BlockAuthoring.Proofs.Schema.Writing
import BlockAuthoring.Proofs.Text.Decimal
import BlockAuthoring.Schema.Synthesis
import BlockAuthoring.Tool.Analysis

/-!
# Which analyses can be written

The large numbers of a record are the indices of its children, and the columns that they call for.
All of them can be written if the index literals of the script have fewer digits than are converted.
With as many digits the indices still can, but not their successors, and so perhaps not the columns.
-/

namespace BlockAuthoring

open Text (maxDigits digitsValue digitsValue_lt length_toDigits_le_iff pow_ten_le)

theorem Json.isWritable_natCast_iff (n : Nat) :
    (Json.int n).isWritable = true ↔ n < Nat.pow 10 maxDigits := by
  rw [isWritable, decide_eq_true_iff, Int.natAbs_natCast, length_toDigits_le_iff (by decide)]

/-- The numbers of a record have no more digits than are written. -/
structure AnalysisRecord.Writable (r : AnalysisRecord) : Prop where
  rows : ∀ n, r.expectedStructure.rows = .count n → (Json.int n).isWritable = true
  columns : (Json.int r.expectedStructure.columns).isWritable = true
  indices : ∀ access ∈ r.childrenAccessPatterns, ∀ i ∈ access.index, (Json.int i).isWritable = true

/-! ## Short literals -/

namespace Analysis

/-- If the text is a script, all index literals in it have fewer digits than are converted. -/
def ShortIndices (text : List Char) : Prop :=
  (Script.moduleOfText text).isOk = true → ∀ ds, IndexLiteral text ds → ds.length < maxDigits

variable {text : List Char} {indices : List Nat}

/-- An index is so small that its successor has no more digits than are written. -/
theorem succ_lt_of_childIndex (hshort : ∀ ds, IndexLiteral text ds → ds.length < maxDigits)
    {i : Nat} (h : ChildIndex text i) : i + 1 < Nat.pow 10 maxDigits := by
  obtain ⟨ds, hds, rfl⟩ := h
  have hnext : digitsValue ds + 1 < Nat.pow 10 (ds.length + 1) := by
    have hvalue := digitsValue_lt ds
    have hpow : Nat.pow 10 (ds.length + 1) = Nat.pow 10 ds.length * 10 := rfl
    omega
  exact Nat.lt_of_lt_of_le hnext (pow_ten_le (hshort ds hds))

theorem writable_recordOf (hshort : ∀ ds, IndexLiteral text ds → ds.length < maxDigits)
    (hindices : childIndices text = .ok indices) : (recordOf text indices).Writable := by
  have hinferred := recordOf_inferred hindices
  have hten : Nat.pow 10 1 ≤ Nat.pow 10 maxDigits := pow_ten_le (by decide)
  refine ⟨fun n hn => ?rows, ?columns, fun access haccess i hi => ?indices⟩
  case rows =>
    rcases hinferred.rows_cases with hmany | hone
    · cases hmany.symm.trans hn
    · cases hone.symm.trans hn
      rfl
  case columns =>
    rw [Json.isWritable_natCast_iff]
    have hcolumns := hinferred.columns
    generalize (recordOf text indices).expectedStructure.columns = columns at hcolumns
    cases hcolumns with
    | config _ => exact Nat.lt_of_lt_of_le (by decide) hten
    | indexed _ most hmost _ => exact succ_lt_of_childIndex hshort hmost
    | plain _ _ => exact Nat.lt_of_lt_of_le (by decide) hten
  case indices =>
    rcases List.mem_append.mp haccess with hindex | hspread
    · obtain ⟨k, hk, rfl⟩ := List.mem_map.mp hindex
      cases hi
      have hlt := succ_lt_of_childIndex hshort ((mem_childIndices_iff hindices k).mp hk)
      exact (Json.isWritable_natCast_iff k).mpr (Nat.lt_of_succ_lt hlt)
    · split at hspread
      · cases List.mem_singleton.mp hspread
        cases hi
      · cases hspread

end Analysis

variable {r : AnalysisRecord}

theorem writable_of_analyze {code : String} (hshort : Analysis.ShortIndices code.toList)
    (h : analyze code = .ok r) : r.Writable := by
  unfold analyze at h
  cases hgate : Script.moduleOfText code.toList with
  | error refusal =>
    rw [hgate] at h
    cases h
  | ok root =>
    rw [hgate] at h
    dsimp only [analyzeModule] at h
    cases hindices : Analysis.childIndices code.toList with
    | error e =>
      rw [hindices] at h
      cases h
    | ok indices =>
      rw [hindices] at h
      cases h
      exact Analysis.writable_recordOf (hshort (by rw [hgate]; rfl)) hindices

/-! ## What is told of a record -/

namespace AnalysisRecord.Writable

theorem toJson (h : r.Writable) : r.toJson.isWritable = true := by
  have hrows : r.expectedStructure.rows.toJson.isWritable = true := by
    cases hcount : r.expectedStructure.rows with
    | count n => exact h.rows n hcount
    | multiple => rfl
  have hstructure : r.expectedStructure.toJson.isWritable = true := by
    rw [ExpectedStructure.toJson, Json.isWritable]
    simp only [Json.haveWritable, hrows, h.columns, Bool.and_true]
    rfl
  have haccesses : (Json.array (r.childrenAccessPatterns.map (·.toJson))).isWritable = true := by
    refine (Json.isWritable_map _).mpr fun access haccess => ?_
    rw [ChildrenAccess.toJson, Json.isWritable_present]
    simpa [Json.isWritable] using h.indices access haccess
  rw [AnalysisRecord.toJson, Json.isWritable]
  simp only [Json.haveWritable, hstructure, haccesses, Json.isWritable_strings, Bool.and_true]
  rfl

/-- The suggestion takes its rows and columns from the record, or has one of each. -/
theorem suggestion (h : r.Writable) : r.suggestion.toJson.isWritable = true := by
  have hone : (Json.int (1 : Nat)).isWritable = true := rfl
  have hsize : (Json.int r.suggestion.rows).isWritable = true
      ∧ (Json.int r.suggestion.columns).isWritable = true := by
    unfold AnalysisRecord.suggestion
    split
    · exact ⟨hone, hone⟩
    · refine ⟨?_, h.columns⟩
      dsimp only
      split
      · exact h.rows _ ‹_›
      · exact hone
  rw [Suggestion.toJson, Json.isWritable_present]
  simpa [Json.isWritable] using hsize

/-- The summary of an analysis can be written if its record can. -/
theorem summary {a : BlockAnalysis} (h : a.record.Writable) :
    (Json.object a.summary).isWritable = true := by
  have hname : (Json.ofString? a.blockName).isWritable = true := by
    cases a.blockName <;> rfl
  have hcomplexity : a.record.complexity.description.isWritable = true := by
    cases a.record.complexity <;> rfl
  have hmutations : (Json.array (a.mutations.map (·.toJson))).isWritable = true := by
    refine (Json.isWritable_map _).mpr fun w _ => ?_
    rw [MutationWarning.toJson, Json.isWritable_present]
    simp [Json.isWritable]
  rw [BlockAnalysis.summary, Json.isWritable]
  simp only [Json.haveWritable, hname, h.toJson, hcomplexity, hmutations, h.suggestion,
    Bool.and_true]

/-- The schema for a record can be written if the record can. -/
theorem synthesize {name : String} {overrides : List (Option FieldOverride)}
    {schema : AuthoringSchema} (h : r.Writable)
    (hschema : BlockAuthoring.synthesize name r overrides = .ok schema) :
    schema.toJson.isWritable = true := by
  have hdefinitions : schema.definitions = Synthesis.definitions name r := by
    unfold BlockAuthoring.synthesize at hschema
    split at hschema
    · cases hschema
    · split at hschema <;> cases hschema
      rfl
  have hprimary : (Json.int (Synthesis.primaryRows r)).isWritable = true := by
    unfold Synthesis.primaryRows
    split
    · exact h.rows _ ‹_›
    · rfl
  have hitem : (Json.int (Synthesis.itemRows r)).isWritable = true := by
    unfold Synthesis.itemRows
    split <;> rfl
  rw [AuthoringSchema.isWritable_toJson_iff, hdefinitions]
  intro d hd
  rcases List.mem_cons.mp hd with rfl | hd
  · exact ⟨by rintro n ⟨⟩; exact hprimary, by rintro n ⟨⟩; exact h.columns⟩
  · split at hd
    · cases List.mem_singleton.mp hd
      exact ⟨by rintro n ⟨⟩; exact hitem, by rintro n ⟨⟩; rfl⟩
    · cases hd

end AnalysisRecord.Writable

end BlockAuthoring
