import BlockAuthoring.Proofs.Analysis.Inference
import BlockAuthoring.Proofs.Schema.Completeness
import BlockAuthoring.Proofs.Schema.Label
import BlockAuthoring.Proofs.Text.Title
import BlockAuthoring.Schema.Synthesis

/-!
# Synthesized schemas are complete

Only a blank name is refused. For every other one the schema of a record can be written down at
once, because each selector is read back at its own place, and nothing that the report asks for is
empty in it: titles and ids come from the name, components and labels fall back to words where the
author's wishes are empty.
-/

namespace BlockAuthoring

open Text

namespace Synthesis

variable {name : String} {r : AnalysisRecord} {overrides : List (Option FieldOverride)}

/-! ## Fields -/

/-- A wish that counts has a text. -/
theorem wish_ne_empty {index : Nat} {part : FieldOverride → Option String} {text : String}
    (h : wish overrides index part = some text) : text ≠ "" := by
  simpa using (Option.filter_eq_some_iff.mp h).2

theorem wish_getD_ne_empty {index : Nat} {part : FieldOverride → Option String} {text : String}
    (h : text ≠ "") : (wish overrides index part).getD text ≠ "" := by
  cases hwish : wish overrides index part with
  | none => exact h
  | some wished => exact wish_ne_empty hwish

/-- The field at a place: its selector counts places from one, and where a wish is missing it is an
editor for rich text under the label of its place. -/
def fieldAt (overrides : List (Option FieldOverride)) (index : Nat) : ModelField where
  component := (wish overrides index (·.component)).getD "richtext"
  name := Selector.child index
  value := some ""
  label := some ((wish overrides index (·.label)).getD (Selector.labelAt (index + 1)))
  valueType := some "string"
  required := if index = 0 then some true else none

theorem field_eq_ok {index : Nat}
    (hindex : (Nat.toDigits 10 (index + 1)).length ≤ maxDigits) :
    field overrides index = .ok (fieldAt overrides index) := by
  have hfilter : (wish overrides index (·.label)).filter (· ≠ "")
      = wish overrides index (·.label) := by
    cases hwish : wish overrides index (·.label) with
    | none => rfl
    | some wished => simp [Option.filter, wish_ne_empty hwish]
  rw [field, Selector.label_child hindex, hfilter]
  rfl

theorem fieldAt_complete (overrides : List (Option FieldOverride)) (index : Nat) :
    (fieldAt overrides index).Complete where
  component := wish_getD_ne_empty (by decide)
  name := by simp [fieldAt, Selector.child, ← String.toList_inj]
  label := ⟨_, rfl, wish_getD_ne_empty (Selector.labelAt_ne_empty _)⟩

/-! ## Schemas -/

/-- The model that a record and the author's wishes make. -/
def modelAt (name : String) (r : AnalysisRecord) (overrides : List (Option FieldOverride)) :
    ComponentModel where
  id := if r.isContainer then itemId name else name
  fields := (List.range r.expectedStructure.columns).map (fieldAt overrides)

theorem model_eq_ok (hcolumns : (Nat.toDigits 10 r.expectedStructure.columns).length ≤ maxDigits) :
    model name r overrides = .ok (modelAt name r overrides) := by
  have hfields := mapM_eq_ok_map (f := field overrides) (g := fieldAt overrides)
    (List.range r.expectedStructure.columns) fun i hi =>
      field_eq_ok (length_toDigits_le_of_le (List.mem_range.mp hi) hcolumns)
  rw [model, hfields]
  rfl

theorem synthesize_eq_ok (hname : isBlank name.toList = false)
    (hcolumns : (Nat.toDigits 10 r.expectedStructure.columns).length ≤ maxDigits) :
    synthesize name r overrides
      = .ok ⟨definitions name r, [modelAt name r overrides], filters name r⟩ := by
  rw [synthesize, hname, model_eq_ok hcolumns]
  rfl

/-- Without wishes, columns with more digits than are converted have no schema: there is no label for
the last of them. -/
theorem synthesize_long (hname : isBlank name.toList = false)
    (hcolumns : maxDigits < (Nat.toDigits 10 r.expectedStructure.columns).length) :
    ∃ fault, synthesize name r [] = .error (.selector fault) := by
  obtain ⟨last, hlast⟩ : ∃ last, r.expectedStructure.columns = last + 1 := by
    cases hzero : r.expectedStructure.columns with
    | zero =>
      rw [hzero] at hcolumns
      exact absurd hcolumns (by decide)
    | succ last => exact ⟨last, rfl⟩
  rw [hlast] at hcolumns
  obtain ⟨fault, hfault⟩ := Selector.label_child_long hcolumns
  have hfield : field [] last = .error fault := by
    rw [field, show wish [] last (·.label) = none from rfl, hfault]
    rfl
  cases hmodel : model name r [] with
  | error fault' => exact ⟨fault', by rw [synthesize, hname, hmodel]; rfl⟩
  | ok m =>
    have hmem : last ∈ List.range r.expectedStructure.columns := by
      rw [hlast]
      exact List.mem_range.mpr (Nat.lt_succ_self last)
    rw [model] at hmodel
    cases hfields : (List.range r.expectedStructure.columns).mapM (field []) with
    | error fault' =>
      rw [hfields] at hmodel
      cases hmodel
    | ok fields =>
      obtain ⟨f, hf⟩ := exists_of_mapM_eq_ok hfields hmem
      cases hfield.symm.trans hf

theorem itemId_ne_empty (name : String) : itemId name ≠ "" := by
  simp [itemId]

theorem definitions_complete (hname : name ≠ "") : ∀ d ∈ definitions name r, d.Complete := by
  have htitle : title name ≠ "" := by
    have hchars := titleOf_ne_nil (show name.toList ≠ [] by simpa using hname)
    simpa [title, ← String.toList_inj] using hchars
  have hprimary : (primaryDefinition name r).Complete := ⟨htitle, hname⟩
  have hitem : (itemDefinition name r).Complete := ⟨by simp [itemDefinition], itemId_ne_empty name⟩
  intro d hd
  rcases List.mem_cons.mp hd with rfl | hd
  · exact hprimary
  · split at hd
    · rwa [List.mem_singleton.mp hd]
    · cases hd

theorem modelAt_complete (hname : name ≠ "") : (modelAt name r overrides).Complete where
  id := by
    unfold modelAt
    split
    · exact itemId_ne_empty name
    · exact hname
  fields f hf := by
    obtain ⟨i, -, rfl⟩ := List.mem_map.mp hf
    exact fieldAt_complete overrides i

theorem filters_complete (hname : name ≠ "") : ∀ f ∈ filters name r, f.id ≠ "" := by
  intro f hf
  unfold filters at hf
  split at hf
  · rw [List.mem_singleton.mp hf]
    exact hname
  · cases hf

/-- A field that is made is complete, also where no selector can be read back. -/
theorem field_complete {index : Nat} {f : ModelField} (h : field overrides index = .ok f) :
    f.Complete := by
  rw [field] at h
  cases hlabel : Selector.label (Selector.child index) (wish overrides index (·.label)) with
  | error fault =>
    rw [hlabel] at h
    cases h
  | ok l =>
    rw [hlabel] at h
    cases h
    refine ⟨wish_getD_ne_empty (by decide), ?_, l, rfl, Selector.label_ne_empty hlabel⟩
    simp [Selector.child, ← String.toList_inj]

/-- A schema that is made comes of a name that is not blank; only its fields are still open, one for
each column. -/
theorem exists_fields_of_synthesize {s : AuthoringSchema}
    (h : synthesize name r overrides = .ok s) :
    isBlank name.toList = false ∧ ∃ fields,
      (List.range r.expectedStructure.columns).mapM (field overrides) = .ok fields
        ∧ s = ⟨definitions name r, [⟨if r.isContainer then itemId name else name, fields⟩],
          filters name r⟩ := by
  unfold synthesize model at h
  split at h
  · cases h
  · rename_i hblank
    cases hfields : (List.range r.expectedStructure.columns).mapM (field overrides) with
    | error fault =>
      rw [hfields] at h
      cases h
    | ok fields =>
      rw [hfields] at h
      cases h
      exact ⟨by simpa using hblank, fields, rfl, rfl⟩

/-- A schema that is made is complete, however many columns the record has. -/
theorem synthesize_complete {s : AuthoringSchema} (h : synthesize name r overrides = .ok s) :
    s.Complete := by
  obtain ⟨hblank, fields, hfields, rfl⟩ := exists_fields_of_synthesize h
  have hname : name ≠ "" := by
    rintro rfl
    cases hblank
  refine ⟨definitions_complete hname, ?_, filters_complete hname⟩
  simp only [List.mem_singleton, forall_eq]
  have hmodelAt : (modelAt name r overrides).Complete := modelAt_complete hname
  refine ⟨hmodelAt.id, fun f hf => ?_⟩
  obtain ⟨index, -, hindex⟩ := exists_of_mem_mapM hfields hf
  exact field_complete hindex

/-! ## The outcome -/

/-- The synthesis for a name, a record and the author's wishes is refused iff the name is blank;
otherwise there is a schema, and nothing is to be said of it. -/
structure Sound (name : String) (r : AnalysisRecord) (overrides : List (Option FieldOverride)) :
    Prop where
  refused : (∃ e, synthesize name r overrides = .error e) ↔ ∀ c ∈ name.toList, isSpace c = true
  blankName : ∀ e, synthesize name r overrides = .error e → e = .blankName
  valid : ¬ (∀ c ∈ name.toList, isSpace c = true) →
    ∃ s, synthesize name r overrides = .ok s ∧ Report.ofSchema s.toJson = {}

theorem sound_of_columns
    (hcolumns : (Nat.toDigits 10 r.expectedStructure.columns).length ≤ maxDigits) :
    Sound name r overrides := by
  have hall : isBlank name.toList = true ↔ ∀ c ∈ name.toList, isSpace c = true := List.all_eq_true
  cases hblank : isBlank name.toList with
  | true =>
    have herror : synthesize name r overrides = .error .blankName := by
      rw [synthesize, if_pos hblank]
    refine ⟨iff_of_true ⟨_, herror⟩ (hall.mp hblank), ?_, absurd (hall.mp hblank)⟩
    intro e he
    cases herror.symm.trans he
    rfl
  | false =>
    have hname : name ≠ "" := by
      rintro rfl
      cases hblank
    have hok : synthesize name r overrides = _ := synthesize_eq_ok hblank hcolumns
    have hnot : ∀ e, synthesize name r overrides ≠ .error e := by
      intro e he
      cases hok.symm.trans he
    refine ⟨iff_of_false (fun ⟨e, he⟩ => hnot e he) ?_, fun e he => absurd he (hnot e), ?_⟩
    · rw [← hall, hblank]
      exact Bool.false_ne_true
    · intro _
      refine ⟨_, hok, (AuthoringSchema.ofSchema_toJson_iff _).mpr ?_⟩
      exact ⟨definitions_complete hname, by simpa using modelAt_complete hname,
        filters_complete hname⟩

/-- The columns of an analyzed source are one more than an index of at most `maxDigits` digits, so
that they have no more digits than an index either, unless all digits of the index are nines. -/
theorem columns_of_analyzeSource {source : Script.Source}
    (h : analyzeSource source = .ok r) :
    (Nat.toDigits 10 r.expectedStructure.columns).length ≤ maxDigits
      ∨ r.expectedStructure.columns = Nat.pow 10 maxDigits := by
  obtain ⟨indices, hindices, hr⟩ := Analysis.exists_indices_of_analyzeSource h
  have hcolumns := (Analysis.recordOf_inferred hindices).columns
  have hshort := ((Analysis.childIndices_eq_ok_iff indices).mp hindices).1
  have hten : Nat.pow 10 1 ≤ Nat.pow 10 maxDigits := pow_ten_le (by decide)
  rw [← hr] at hcolumns
  have hle : r.expectedStructure.columns ≤ Nat.pow 10 maxDigits := by
    -- Only an index can call for many columns, and its value is bounded by its digits.
    generalize r.expectedStructure.columns = columns at hcolumns
    cases hcolumns with
    | config _ => exact Nat.le_trans (by decide) hten
    | indexed _ most hmost _ =>
      obtain ⟨ds, hds, rfl⟩ := hmost
      exact Nat.lt_of_lt_of_le (digitsValue_lt ds) (pow_ten_le (hshort ds hds))
    | plain _ _ => exact Nat.le_trans (by decide) hten
  rcases Nat.lt_or_eq_of_le hle with hlt | heq
  · exact .inl ((length_toDigits_le_iff (by decide)).mpr hlt)
  · exact .inr heq

/-- **Synthesis is sound.** Whatever the name and the author's wishes are, only a blank name is
refused, and nothing is to be said of the schema for any other one: neither an error nor a warning.
This holds of every record with columns of at most `maxDigits` digits. Among them are all records
of analyzed sources, except for the one number of columns that has a digit more, which an index of
nothing but nines calls for. -/
theorem synthesize_sound (name : String) (overrides : List (Option FieldOverride)) :
    (∀ r : AnalysisRecord, (toString r.expectedStructure.columns).length ≤ maxDigits →
      Sound name r overrides)
    ∧ ∀ (source : Script.Source) (r : AnalysisRecord), analyzeSource source = .ok r →
      r.expectedStructure.rows ≠ .count 0
        ∧ (Sound name r overrides ∨ r.expectedStructure.columns = Nat.pow 10 maxDigits) := by
  refine ⟨fun r hcolumns => ?_, fun source r h => ⟨?_, ?_⟩⟩
  · rw [Nat.toString_eq_repr, ← String.length_toList, Nat.toList_repr] at hcolumns
    exact sound_of_columns hcolumns
  · obtain ⟨indices, hindices, rfl⟩ := Analysis.exists_indices_of_analyzeSource h
    rw [(Analysis.recordOf_inferred hindices).rows]
    split <;> simp
  · exact (columns_of_analyzeSource h).imp_left sound_of_columns

/-- An empty source and a wish without a label. -/
theorem synthesize_sound_emptySource :
    ∃ r, analyzeSource [] = .ok r
      ∧ (toString r.expectedStructure.columns).length ≤ maxDigits
      ∧ r.expectedStructure.rows ≠ .count 0
      ∧ ∃ s, synthesize "hero-banner" r [some ⟨some "", some "text"⟩] = .ok s
        ∧ Report.ofSchema s.toJson = {} := by
  have hr : analyzeSource [] = .ok (Analysis.recordOf [] []) := by decide +kernel
  have hcolumns : (toString (Analysis.recordOf [] []).expectedStructure.columns).length
      ≤ maxDigits := by decide +kernel
  obtain ⟨hall, hanalyzed⟩ := synthesize_sound "hero-banner" [some ⟨some "", some "text"⟩]
  have hname : ¬ ∀ c ∈ "hero-banner".toList, isSpace c = true := by
    rw [← List.all_eq_true]
    decide
  exact ⟨_, hr, hcolumns, (hanalyzed [] _ hr).1, (hall _ hcolumns).valid hname⟩

end Synthesis

end BlockAuthoring
