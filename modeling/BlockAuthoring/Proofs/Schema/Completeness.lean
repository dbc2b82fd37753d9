import BlockAuthoring.Proofs.Association
import BlockAuthoring.Proofs.Schema.Conformance
import BlockAuthoring.Schema.Model

/-!
# Complete schemas

The report looks at JSON, where a member without a value is missing. For a schema whose members are
known by name this comes down to a few texts that must not be empty: nothing is to be said of its
JSON form iff the schema is `Complete`.
-/

namespace BlockAuthoring

open Report

/-- A definition has a title and an id. -/
structure Definition.Complete (d : Definition) : Prop where
  title : d.title ≠ ""
  id : d.id ≠ ""

/-- A field has a component, a name and a label. -/
structure ModelField.Complete (f : ModelField) : Prop where
  component : f.component ≠ ""
  name : f.name ≠ ""
  label : ∃ l, f.label = some l ∧ l ≠ ""

/-- A model has an id and complete fields. -/
structure ComponentModel.Complete (m : ComponentModel) : Prop where
  id : m.id ≠ ""
  fields : ∀ f ∈ m.fields, f.Complete

/-- All parts of a schema are complete. -/
structure AuthoringSchema.Complete (s : AuthoringSchema) : Prop where
  definitions : ∀ d ∈ s.definitions, d.Complete
  models : ∀ m ∈ s.models, m.Complete
  filters : ∀ f ∈ s.filters, f.id ≠ ""

/-! ## Members -/

namespace Json

theorem not_saysNothing_string_iff (t : String) : ¬ (Json.string t).SaysNothing ↔ t ≠ "" := by
  rw [← isTruthy_eq_false_iff]
  simp [isTruthy]

end Json

theorem ModelField.get_label (f : ModelField) :
    f.toJson.get "label" = (f.label.map .string).getD .null := by
  rw [toJson, Json.get_present _ (by simp)]
  rfl

/-- What holds of the items of a written list holds of what they were written for. -/
theorem exists_items_map_iff {α : Type} {v : Json} {write : α → Json} {xs : List α}
    (h : v = .array (xs.map write)) (P : Json → Prop) :
    (∃ items, v = .array items ∧ ∀ item ∈ items, P item) ↔ ∀ x ∈ xs, P (write x) := by
  subst h
  simp

/-! ## Elements -/

theorem Definition.formed_toJson_iff (d : Definition) :
    DefinitionFormed d.toJson ↔ d.Complete := by
  have htitle := Json.not_saysNothing_string_iff d.title
  have hid := Json.not_saysNothing_string_iff d.id
  constructor
  · intro h
    exact ⟨htitle.mp h.title, hid.mp h.id⟩
  · intro h
    exact ⟨rfl, htitle.mpr h.title, hid.mpr h.id, rfl⟩

/-- A field with a label that says something. -/
def Labelled (v : Json) : Prop := v.isObject = true → ¬ (v.get "label").SaysNothing

theorem ModelField.formed_toJson_iff (f : ModelField) :
    FieldFormed f.toJson ∧ Labelled f.toJson ↔ f.Complete := by
  have hcomponent := Json.not_saysNothing_string_iff f.component
  have hname := Json.not_saysNothing_string_iff f.name
  have hlabel : Labelled f.toJson ↔ ∃ l, f.label = some l ∧ l ≠ "" := by
    have hobject : f.toJson.isObject = true := rfl
    rw [Labelled, get_label]
    cases f.label with
    | none => simpa [hobject] using Json.SaysNothing.null
    | some l => simpa [hobject] using Json.not_saysNothing_string_iff l
  constructor
  · rintro ⟨h, hl⟩
    exact ⟨hcomponent.mp h.component, hname.mp h.name, hlabel.mp hl⟩
  · intro h
    exact ⟨⟨rfl, hcomponent.mpr h.component, hname.mpr h.name⟩, hlabel.mpr h.label⟩

theorem ComponentModel.formed_toJson_iff (m : ComponentModel) :
    ModelFormed m.toJson ∧ (∀ f ∈ itemsOf (m.toJson.get "fields"), Labelled f) ↔ m.Complete := by
  have hid := Json.not_saysNothing_string_iff m.id
  have hfields : m.toJson.get "fields" = .array (m.fields.map (·.toJson)) := rfl
  have hformed := exists_items_map_iff hfields FieldFormed
  have hlabels : (∀ f ∈ itemsOf (m.toJson.get "fields"), Labelled f) ↔
      ∀ f ∈ m.fields, Labelled f.toJson := by
    rw [hfields]
    exact List.forall_mem_map
  rw [hlabels]
  constructor
  · rintro ⟨h, hl⟩
    have hf := hformed.mp h.fields
    exact ⟨hid.mp h.id, fun f hm => f.formed_toJson_iff.mp ⟨hf f hm, hl f hm⟩⟩
  · intro h
    have hf := fun f hm => (ModelField.formed_toJson_iff f).mpr (h.fields f hm)
    exact ⟨⟨rfl, hid.mpr h.id, hformed.mpr fun f hm => (hf f hm).1⟩, fun f hm => (hf f hm).2⟩

theorem ComponentFilter.formed_toJson_iff (f : ComponentFilter) :
    FilterFormed f.toJson ↔ f.id ≠ "" := by
  have hid := Json.not_saysNothing_string_iff f.id
  constructor
  · intro h
    exact hid.mp h.id
  · intro h
    exact ⟨rfl, hid.mpr h, rfl⟩

/-! ## Schemas -/

theorem unlabelled_eq_nil_iff (v : Json) :
    unlabelled v = [] ↔
      ∀ m ∈ itemsOf (v.get "models"), ∀ f ∈ itemsOf (m.get "fields"), Labelled f := by
  have hfield : ∀ i j f, unlabelledField i j f = [] ↔ Labelled f := by
    intro i j f
    simp [unlabelledField, Labelled]
  exact eachItem_eq_nil_iff (P := fun m => ∀ f ∈ itemsOf (m.get "fields"), Labelled f)
    (fun i m => eachItem_eq_nil_iff (hfield i) _) _

/-- The report on a complete schema is empty, and on no other. -/
theorem AuthoringSchema.ofSchema_toJson_iff (s : AuthoringSchema) :
    Report.ofSchema s.toJson = {} ↔ s.Complete := by
  have hreport : Report.ofSchema s.toJson = {} ↔
      SchemaFormed s.toJson ∧ unlabelled s.toJson = [] := by
    rw [← schemaDefects_eq_nil_iff, ← errors_ofSchema, ← warnings_ofSchema]
    cases Report.ofSchema s.toJson
    simp
  have hmodels : s.toJson.get "models" = .array (s.models.map (·.toJson)) := rfl
  have hdefinitionsFormed := exists_items_map_iff
    (show s.toJson.get "definitions" = .array (s.definitions.map (·.toJson)) from rfl)
    DefinitionFormed
  have hmodelsFormed := exists_items_map_iff hmodels ModelFormed
  have hfiltersFormed := exists_items_map_iff
    (show s.toJson.get "filters" = .array (s.filters.map (·.toJson)) from rfl) FilterFormed
  rw [hreport, unlabelled_eq_nil_iff, hmodels, itemsOf, List.forall_mem_map]
  constructor
  · rintro ⟨h, hlabels⟩
    have hm := hmodelsFormed.mp h.models
    exact ⟨fun d hd => d.formed_toJson_iff.mp (hdefinitionsFormed.mp h.definitions d hd),
      fun m hmem => m.formed_toJson_iff.mp ⟨hm m hmem, hlabels m hmem⟩,
      fun f hf => f.formed_toJson_iff.mp (hfiltersFormed.mp h.filters f hf)⟩
  · intro h
    have hm := fun m hmem => (ComponentModel.formed_toJson_iff m).mpr (h.models m hmem)
    refine ⟨⟨rfl, hdefinitionsFormed.mpr fun d hd => ?_, hmodelsFormed.mpr fun m hmem => ?_,
      hfiltersFormed.mpr fun f hf => ?_⟩, fun m hmem => (hm m hmem).2⟩
    · exact d.formed_toJson_iff.mpr (h.definitions d hd)
    · exact (hm m hmem).1
    · exact f.formed_toJson_iff.mpr (h.filters f hf)

end BlockAuthoring
