import BlockAuthoring.Proofs.Schema.Synthesis
import Mathlib.Data.List.Nodup

/-!
# The fields of a model

A model has one field for each column. A field is made from its place and from the author's wish for
that place, and from nothing else: neither the name nor the record nor a wish for another place is
seen in it. Places are told apart by their selectors, and by their labels where no wish hides them.
-/

namespace BlockAuthoring

open Text

namespace Synthesis

variable {name : String} {r : AnalysisRecord} {s : AuthoringSchema} {m : ComponentModel}
  {overrides overrides' : List (Option FieldOverride)} {i : Nat} {f : ModelField}

/-! ## Wishes -/

/-- A wish for a place is that of the override for this place. -/
theorem wish_congr (h : (overrides[i]?).join = (overrides'[i]?).join)
    (part : FieldOverride → Option String) : wish overrides i part = wish overrides' i part := by
  rw [wish, wish, h]

theorem wish_of_override {o : FieldOverride} (h : overrides[i]? = some (some o))
    {part : FieldOverride → Option String} {text : String} (hpart : part o = some text)
    (htext : text ≠ "") : wish overrides i part = some text := by
  rw [wish, h]
  simp [hpart, htext]

theorem wish_eq_none (h : (overrides[i]?).join = none) (part : FieldOverride → Option String) :
    wish overrides i part = none := by
  rw [wish, h]
  rfl

/-- The field at a place depends on the override for this place alone. -/
theorem fieldAt_congr (h : (overrides[i]?).join = (overrides'[i]?).join) :
    fieldAt overrides i = fieldAt overrides' i := by
  rw [fieldAt, wish_congr h, wish_congr h]
  rfl

theorem label_fieldAt_of_none (h : (overrides[i]?).join = none) :
    (fieldAt overrides i).label = some (Selector.labelAt (i + 1)) := by
  simp only [fieldAt, wish_eq_none h]
  rfl

/-! ## Fields of a schema -/

/-- Whatever else a schema is made for, the field at a place is the one that is made for the place,
as long as the place has no more digits than are converted. -/
theorem eq_fieldAt_of_synthesize (h : synthesize name r overrides = .ok s) (hm : m ∈ s.models)
    (hf : m.fields[i]? = some f) (hi : (Nat.toDigits 10 (i + 1)).length ≤ maxDigits) :
    f = fieldAt overrides i := by
  obtain ⟨-, fields, hfields, rfl⟩ := exists_fields_of_synthesize h
  rw [List.mem_singleton.mp hm] at hf
  rw [mapM_eq_ok_iff] at hfields
  obtain ⟨hplace, hfield⟩ : ∃ hplace : i < (List.range r.expectedStructure.columns).length,
      field overrides (List.range r.expectedStructure.columns)[i] = .ok f := by
    obtain ⟨hlt, hget⟩ := List.getElem?_eq_some_iff.mp hf
    refine ⟨hfields.length_eq ▸ hlt, ?_⟩
    rw [← hget]
    exact hfields.get _ hlt
  rw [List.getElem_range, field_eq_ok hi] at hfield
  cases hfield
  rfl

/-- The fields for so many columns: one at each place, with a selector and, if the author wishes
nothing, a label of its own; what is wished has its way, and only the first field is required. -/
structure FieldsFor (columns : Nat) (overrides : List (Option FieldOverride))
    (fields : List ModelField) : Prop where
  length : fields.length = columns
  names : fields.map (·.name)
    = (List.range columns).map fun i => "div:nth-child(" ++ toString (i + 1) ++ ")"
  nodup_names : (fields.map (·.name)).Nodup
  required : ∀ (i : Nat) f, fields[i]? = some f → f.required = if i = 0 then some true else none
  wished : ∀ (i : Nat) f o, fields[i]? = some f → overrides[i]? = some (some o) →
    (∀ l, o.label = some l → l ≠ "" → f.label = some l)
      ∧ ∀ c, o.component = some c → c ≠ "" → f.component = c
  nodup_labels : (∀ o ∈ overrides, o = none) → (fields.map (·.label)).Nodup

/-- Fields of two models at one place are the same, if the overrides for this place are; if they are
not, the fields differ in label and component only. -/
def AgreeByPlace (overrides overrides' : List (Option FieldOverride))
    (fields fields' : List ModelField) : Prop :=
  ∀ (i : Nat) f f', fields[i]? = some f → fields'[i]? = some f' →
    ((overrides[i]?).join = (overrides'[i]?).join → f = f')
      ∧ f' = { f with label := f'.label, component := f'.component }

theorem fieldsFor_fieldAt (columns : Nat) (overrides : List (Option FieldOverride)) :
    FieldsFor columns overrides ((List.range columns).map (fieldAt overrides)) := by
  have hget : ∀ (i : Nat) f, ((List.range columns).map (fieldAt overrides))[i]? = some f →
      f = fieldAt overrides i := by
    intro i f hf
    obtain ⟨hlt, rfl⟩ := List.getElem?_eq_some_iff.mp hf
    rw [List.getElem_map, List.getElem_range]
  constructor
  · simp
  · rw [List.map_map]
    exact List.map_congr_left fun i _ => Selector.child_eq i
  · rw [List.map_map]
    exact List.Nodup.map (fun i j => Selector.child_injective) List.nodup_range
  · intro i f hf
    rw [hget i f hf]
    rfl
  · intro i f o hf ho
    rw [hget i f hf]
    constructor
    · intro l hl hne
      rw [fieldAt, wish_of_override ho hl hne]
      rfl
    · intro c hc hne
      rw [fieldAt, wish_of_override ho hc hne]
      rfl
  · intro hnone
    rw [List.map_map]
    refine List.Nodup.map (fun i j h => ?_) List.nodup_range
    have hjoin : ∀ k : Nat, (overrides[k]?).join = none := by
      intro k
      cases hk : overrides[k]? with
      | none => rfl
      | some o => rw [hnone o (List.mem_of_getElem? hk)]; rfl
    simp only [Function.comp_apply, label_fieldAt_of_none (hjoin _), Option.some.injEq] at h
    exact Selector.labelAt_succ_injective h

/-- Overrides for places behind the last column are not seen. -/
theorem modelAt_congr
    (h : ∀ i < r.expectedStructure.columns, (overrides[i]?).join = (overrides'[i]?).join) :
    modelAt name r overrides = modelAt name r overrides' := by
  have hfields : (List.range r.expectedStructure.columns).map (fieldAt overrides)
      = (List.range r.expectedStructure.columns).map (fieldAt overrides') :=
    List.map_congr_left fun i hi => fieldAt_congr (h i (List.mem_range.mp hi))
  rw [modelAt, hfields]
  rfl

/-- **A field belongs to its place.** For every name that is not blank and every record with
columns of at most `maxDigits` digits there is a schema with one model, which has one field for each
column. Overrides that differ behind the last column only make no other schema. And in every schema
there is, for whatever name, record and overrides, the field at a place is the same if the override
for this place is, and differs in its label and component at most if it is not. -/
theorem synthesize_fields (name : String) (r : AnalysisRecord)
    (overrides : List (Option FieldOverride)) (hname : isBlank name.toList = false)
    (hcolumns : (toString r.expectedStructure.columns).length ≤ maxDigits) :
    ∃ s m, synthesize name r overrides = .ok s ∧ s.models = [m]
      ∧ FieldsFor r.expectedStructure.columns overrides m.fields
      ∧ (∀ overrides' : List (Option FieldOverride), (∀ i < r.expectedStructure.columns,
          (overrides'[i]?).join = (overrides[i]?).join) → synthesize name r overrides' = .ok s)
      ∧ ∀ name' r' overrides' s', synthesize name' r' overrides' = .ok s' → ∀ m' ∈ s'.models,
        AgreeByPlace overrides overrides' m.fields m'.fields := by
  rw [Nat.toString_eq_repr, ← String.length_toList, Nat.toList_repr] at hcolumns
  refine ⟨_, _, synthesize_eq_ok hname hcolumns, rfl, fieldsFor_fieldAt _ overrides, ?_, ?_⟩
  · intro overrides' hagree
    rw [synthesize_eq_ok hname hcolumns, modelAt_congr hagree]
  · intro name' r' overrides' s' hs' m' hm' i f f' hf hf'
    obtain ⟨hi, rfl⟩ := List.getElem?_eq_some_iff.mp hf
    have hlt : i < r.expectedStructure.columns := by simpa [modelAt] using hi
    -- The place has a field in the first model, so that it is written with few enough digits.
    have hplace : (Nat.toDigits 10 (i + 1)).length ≤ maxDigits :=
      length_toDigits_le_of_le (Nat.succ_le_of_lt hlt) hcolumns
    have hfield : (modelAt name r overrides).fields[i] = fieldAt overrides i := by
      simp [modelAt]
    rw [hfield, eq_fieldAt_of_synthesize hs' hm' hf' hplace]
    exact ⟨fieldAt_congr, rfl⟩

/-- A table with a column more than there are labels. -/
def sixColumns : AnalysisRecord :=
  { Analysis.recordOf [] [] with expectedStructure := ⟨.table, .count 1, 6⟩ }

/-- Wishes for the first place and for one that the table does not have. -/
def raggedWishes : List (Option FieldOverride) :=
  [some ⟨some "Heading", some ""⟩, none, none, none, none, none, some ⟨none, some "text"⟩]

theorem synthesize_fields_ragged :
    isBlank "hero".toList = false
      ∧ (toString sixColumns.expectedStructure.columns).length ≤ maxDigits
      ∧ ∃ s m, synthesize "hero" sixColumns raggedWishes = .ok s ∧ s.models = [m]
        ∧ m.fields.map (fun f => (f.label, f.component)) = [(some "Heading", "richtext"),
          (some "Content", "richtext"), (some "Image", "richtext"),
          (some "Description", "richtext"), (some "Link", "richtext"), (some "Field 6", "richtext")]
        ∧ FieldsFor 6 raggedWishes m.fields := by
  have hname : isBlank "hero".toList = false := by decide
  have hcolumns : (toString sixColumns.expectedStructure.columns).length ≤ maxDigits := by
    decide +kernel
  have hmade : ((synthesize "hero" sixColumns raggedWishes).toOption.map fun s =>
      s.models.map fun m => m.fields.map fun f => (f.label, f.component))
        = some [[(some "Heading", "richtext"), (some "Content", "richtext"),
          (some "Image", "richtext"), (some "Description", "richtext"), (some "Link", "richtext"),
          (some "Field 6", "richtext")]] := by
    decide +kernel
  obtain ⟨s, m, hs, hm, hfields, -, -⟩ :=
    synthesize_fields "hero" sixColumns raggedWishes hname hcolumns
  rw [hs] at hmade
  refine ⟨hname, hcolumns, s, m, hs, hm, ?_, hfields⟩
  simpa [Except.toOption, hm] using hmade

end Synthesis

end BlockAuthoring
