import BlockAuthoring.Proofs.Json.Spelling
import BlockAuthoring.Schema.Reading

/-!
# Written schemas are read

A schema is read from its JSON form as what it was, with all that it leaves out left out again. Two
of its members have a second name, and each time one of them occurs it may stand under either name.
-/

namespace BlockAuthoring

open Json Shape Checked

namespace AuthoringSchema

/-- The members that have a second name. -/
def secondNames : List Key := [⟨"unsafeHTML", "unsafe_html"⟩, ⟨"valueType", "value_type"⟩]

end AuthoringSchema

open AuthoringSchema (secondNames)

/-! ## Parts -/

theorem RenderingHints.reads (h : RenderingHints) :
    Reads secondNames RenderingHints.shape h.toJson h := by
  obtain ⟨name, rows, columns, type, unsafeHtml⟩ := h
  refine .ofPresent (by simp [NamedApart, otherName, secondNames]) fun v hv => ?_
  refine seq_ok (seq_ok (seq_ok (seq_ok (map_ok ?name) ?rows) ?columns) ?type) ?unsafeHtml
  case name => exact hv.nullable rfl rfl .text
  case rows => exact hv.nullable rfl rfl .integer
  case columns => exact hv.nullable rfl rfl .integer
  case type => exact hv.nullable rfl rfl .text
  case unsafeHtml => exact hv.nullable rfl rfl .text

theorem Definition.reads (d : Definition) : Reads secondNames Definition.shape d.toJson d := by
  obtain ⟨title, id, hints, filter, model⟩ := d
  refine .ofPresent (by simp [NamedApart, otherName, secondNames]) fun v hv => ?_
  refine seq_ok (seq_ok (seq_ok (seq_ok (map_ok ?title) ?id) ?hints) ?filter) ?model
  case title => exact hv.required rfl rfl (.text title)
  case id => exact hv.required rfl rfl (.text id)
  case hints =>
    refine hv.defaulted rfl rfl (.ofObject (by simp) fun plugins hplugins => ?_)
    exact hplugins.defaulted rfl rfl hints.reads
  case filter => exact hv.nullable rfl rfl .text
  case model => exact hv.nullable rfl rfl .text

theorem FieldOption.reads (o : FieldOption) : Reads secondNames FieldOption.shape o.toJson o := by
  obtain ⟨name, value⟩ := o
  refine .ofObject (by simp [NamedApart, otherName, secondNames]) fun v hv => ?_
  exact seq_ok (map_ok (hv.required rfl rfl (.text name))) (hv.required rfl rfl (.text value))

theorem ModelField.reads (f : ModelField) : Reads secondNames ModelField.shape f.toJson f := by
  obtain ⟨component, name, value, label, valueType, required, description, hidden, multi,
    options⟩ := f
  refine .ofPresent (by simp [NamedApart, otherName, secondNames]) fun v hv => ?_
  refine seq_ok (seq_ok (seq_ok (seq_ok (seq_ok (seq_ok (seq_ok (seq_ok (seq_ok (map_ok
    ?component) ?name) ?value) ?label) ?valueType) ?required) ?description) ?hidden) ?multi)
    ?options
  case component => exact hv.required rfl rfl (.text component)
  case name => exact hv.required rfl rfl (.text name)
  case value => exact hv.nullable rfl rfl .text
  case label => exact hv.nullable rfl rfl .text
  case valueType => exact hv.nullable rfl rfl .text
  case required => exact hv.nullable rfl rfl .flag
  case description => exact hv.nullable rfl rfl .text
  case hidden => exact hv.nullable rfl rfl .flag
  case multi => exact hv.nullable rfl rfl .flag
  case options => exact hv.nullable rfl rfl fun _ => .listOf fun option _ => option.reads

theorem ComponentModel.reads (m : ComponentModel) :
    Reads secondNames ComponentModel.shape m.toJson m := by
  obtain ⟨id, fields⟩ := m
  refine .ofObject (by simp [NamedApart, otherName, secondNames]) fun v hv => ?_
  exact seq_ok (map_ok (hv.required rfl rfl (.text id)))
    (hv.defaulted rfl rfl (.listOf fun field _ => field.reads))

theorem ComponentFilter.reads (f : ComponentFilter) :
    Reads secondNames ComponentFilter.shape f.toJson f := by
  obtain ⟨id, components⟩ := f
  refine .ofObject (by simp [NamedApart, otherName, secondNames]) fun v hv => ?_
  exact seq_ok (map_ok (hv.required rfl rfl (.text id)))
    (hv.defaulted rfl rfl (.listOf fun component _ => .text component))

/-! ## Schemas -/

namespace AuthoringSchema

theorem reads (s : AuthoringSchema) : Reads secondNames AuthoringSchema.shape s.toJson s := by
  obtain ⟨definitions, models, filters⟩ := s
  refine .ofObject (by simp [NamedApart, otherName, secondNames]) fun v hv => ?_
  refine seq_ok (seq_ok (map_ok ?definitions) ?models) ?filters
  case definitions => exact hv.defaulted rfl rfl (.listOf fun definition _ => definition.reads)
  case models => exact hv.defaulted rfl rfl (.listOf fun model _ => model.reads)
  case filters => exact hv.defaulted rfl rfl (.listOf fun filter _ => filter.reads)

/-- **Written schemas are read.** Whatever is in a schema, it is read from its JSON form as what it
was, and from every other spelling of that form, too. -/
theorem shape_respell_toJson (s : AuthoringSchema) :
    AuthoringSchema.shape s.toJson = .ok s
      ∧ ∀ chosen, AuthoringSchema.shape (s.toJson.respell secondNames chosen) = .ok s := by
  refine ⟨?_, s.reads.read⟩
  rw [← respell_nothing secondNames s.toJson]
  exact s.reads.read _

/-- The second name of one of two members is taken, and a list stays empty. -/
example : respell secondNames (· = [.member "fields", .item 1, .member "valueType"])
    (ComponentModel.toJson ⟨"hero", [
      { component := "text", name := "a", valueType := some "string" },
      { component := "select", name := "b", valueType := some "string", options := some [] }]⟩)
    = .object [("id", .string "hero"), ("fields", .array [
      .object [("component", .string "text"), ("name", .string "a"),
        ("valueType", .string "string")],
      .object [("component", .string "select"), ("name", .string "b"),
        ("value_type", .string "string"), ("options", .array [])]])] := by
  rfl

end AuthoringSchema

end BlockAuthoring
