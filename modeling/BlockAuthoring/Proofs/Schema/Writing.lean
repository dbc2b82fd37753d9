import BlockAuthoring.Proofs.Json.Plain
import BlockAuthoring.Schema.Builtin

/-!
# Which schemas can be written

The only whole numbers in a schema are those in the hints of its definitions. So a schema can be
written iff these can, and what every project needs always can.
-/

namespace BlockAuthoring

open Json

namespace Json

theorem isWritable_map {α : Type} {write : α → Json} (xs : List α) :
    (Json.array (xs.map write)).isWritable = true ↔ ∀ x ∈ xs, (write x).isWritable = true := by
  rw [isWritable, areWritable_iff, List.forall_mem_map]

theorem isWritable_strings (ss : List String) : (strings ss).isWritable = true :=
  (isWritable_map ss).mpr fun _ _ => rfl

/-- Members without a value are not written. -/
theorem isWritable_present (members : List (String × Option Json)) :
    (Json.object (present members)).isWritable = true
      ↔ ∀ m ∈ members, ∀ v ∈ m.2, v.isWritable = true := by
  rw [isWritable, haveWritable_iff]
  constructor
  · rintro h ⟨key, value⟩ hm v rfl
    exact h (key, v) (List.mem_filterMap.mpr ⟨(key, some v), hm, rfl⟩)
  · intro h m hm
    obtain ⟨⟨key, value⟩, hmem, hvalue⟩ := List.mem_filterMap.mp hm
    obtain ⟨v, rfl, rfl⟩ := Option.map_eq_some_iff.mp hvalue
    exact h _ hmem v rfl

/-- A value of a kind that can always be written, or none. -/
theorem forall_mem_map_isWritable {α : Type} {write : α → Json}
    (h : ∀ x, (write x).isWritable = true) (o : Option α) :
    ∀ v ∈ o.map write, v.isWritable = true := by
  intro v hv
  obtain ⟨x, -, rfl⟩ := Option.map_eq_some_iff.mp hv
  exact h x

end Json

/-- The numbers of rows and columns in the hints have no more digits than are written. -/
def RenderingHints.Writable (h : RenderingHints) : Prop :=
  (∀ n ∈ h.rows, (Json.int n).isWritable = true)
    ∧ ∀ n ∈ h.columns, (Json.int n).isWritable = true

theorem RenderingHints.isWritable_toJson_iff (h : RenderingHints) :
    h.toJson.isWritable = true ↔ h.Writable := by
  rw [toJson, isWritable_present]
  simp [Writable, isWritable]

theorem Definition.isWritable_toJson_iff (d : Definition) :
    d.toJson.isWritable = true ↔ d.hints.Writable := by
  rw [toJson, isWritable_present, ← RenderingHints.isWritable_toJson_iff]
  simp [isWritable, haveWritable]

theorem ModelField.isWritable_toJson (f : ModelField) : f.toJson.isWritable = true := by
  have hoptions (options : List FieldOption) :
      (Json.array (options.map (·.toJson))).isWritable = true :=
    (isWritable_map options).mpr fun o _ => rfl
  have hbool (o : Option Bool) : ∀ v ∈ o.map Json.bool, v.isWritable = true :=
    forall_mem_map_isWritable (fun _ => rfl) o
  have hstring (o : Option String) : ∀ v ∈ o.map Json.string, v.isWritable = true :=
    forall_mem_map_isWritable (fun _ => rfl) o
  rw [toJson, isWritable_present]
  simp only [List.forall_mem_cons, List.not_mem_nil, false_implies, implies_true, and_true]
  exact ⟨hstring (some _), hstring (some _), hstring _, hstring _, hstring _, hbool _, hstring _,
    hbool _, hbool _, forall_mem_map_isWritable hoptions _⟩

theorem ComponentModel.isWritable_toJson (m : ComponentModel) : m.toJson.isWritable = true := by
  have hfields : areWritable (m.fields.map (·.toJson)) = true :=
    (isWritable_map m.fields).mpr fun f _ => f.isWritable_toJson
  simp [toJson, isWritable, haveWritable, hfields]

theorem ComponentFilter.isWritable_toJson (f : ComponentFilter) : f.toJson.isWritable = true := by
  simp [toJson, isWritable, haveWritable, isWritable_strings]

theorem AuthoringSchema.isWritable_toJson_iff (s : AuthoringSchema) :
    s.toJson.isWritable = true ↔ ∀ d ∈ s.definitions, d.hints.Writable := by
  have hmodels := (isWritable_map s.models).mpr fun m _ => m.isWritable_toJson
  have hfilters := (isWritable_map s.filters).mpr fun f _ => f.isWritable_toJson
  rw [toJson, isWritable]
  simp only [haveWritable, hmodels, hfilters, Bool.and_true, isWritable_map,
    Definition.isWritable_toJson_iff]

/-- Whatever components a section takes, the files that every project needs can be written. -/
theorem Builtin.isWritable_of_mem (components : List String) :
    ∀ x ∈ files components, x.2.isWritable = true := by
  have hschema (s : AuthoringSchema)
      (h : ∀ d ∈ s.definitions, d.hints.rows = none ∧ d.hints.columns = none) :
      s.toJson.isWritable = true := by
    refine s.isWritable_toJson_iff.mpr fun d hd => ?_
    obtain ⟨hrows, hcolumns⟩ := h d hd
    simp [RenderingHints.Writable, hrows, hcolumns]
  have hpage := hschema pageSchema (by simp [pageSchema])
  have htext := hschema textSchema (by simp [textSchema])
  have himage := hschema imageSchema (by simp [imageSchema])
  have hsection := hschema (sectionSchema components) (by simp [sectionSchema])
  have hdefinitions : definitionTemplate.isWritable = true := rfl
  have hmodels : modelsTemplate.isWritable = true := rfl
  have hfilters : filtersTemplate.isWritable = true := rfl
  simp [files, schemaFiles, templateFiles, hpage, htext, himage, hsection, hdefinitions, hmodels,
    hfilters]

end BlockAuthoring
