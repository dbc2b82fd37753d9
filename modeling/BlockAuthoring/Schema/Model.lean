import BlockAuthoring.Json.Value

/-!
# Authoring schemas

What the editor reads about a component: definitions for its insert menu, models with the fields
that can be edited, and filters that say what may be placed inside. The JSON form has the members
in this order and leaves out those without a value.
-/

namespace BlockAuthoring

/-- How a component is rendered when it is inserted. -/
structure RenderingHints where
  name : Option String := none
  rows : Option Int := none
  columns : Option Int := none
  type : Option String := none
  unsafeHtml : Option String := none
  deriving DecidableEq, Repr, Inhabited

/-- A component as the insert menu shows it. -/
structure Definition where
  title : String
  id : String
  hints : RenderingHints := {}
  filter : Option String := none
  model : Option String := none
  deriving DecidableEq, Repr, Inhabited

/-- A choice of a field. -/
structure FieldOption where
  name : String
  value : String
  deriving DecidableEq, Repr, Inhabited

/-- A field that can be edited. Its name is a selector. -/
structure ModelField where
  component : String
  name : String
  value : Option String := none
  label : Option String := none
  valueType : Option String := none
  required : Option Bool := none
  description : Option String := none
  hidden : Option Bool := none
  multi : Option Bool := none
  options : Option (List FieldOption) := none
  deriving DecidableEq, Repr, Inhabited

/-- The fields of a component. -/
structure ComponentModel where
  id : String
  fields : List ModelField := []
  deriving DecidableEq, Repr, Inhabited

/-- What may be placed inside a component. -/
structure ComponentFilter where
  id : String
  components : List String := []
  deriving DecidableEq, Repr, Inhabited

/-- Definitions, models and filters of a component. -/
structure AuthoringSchema where
  definitions : List Definition := []
  models : List ComponentModel := []
  filters : List ComponentFilter := []
  deriving DecidableEq, Repr, Inhabited

/-- What an author wants of the field at one position. -/
structure FieldOverride where
  label : Option String := none
  component : Option String := none
  deriving DecidableEq, Repr, Inhabited

/-! ## As JSON -/

open Json

/-- Hints as JSON. -/
def RenderingHints.toJson (h : RenderingHints) : Json :=
  .object (present [
    ("name", h.name.map .string),
    ("rows", h.rows.map .int),
    ("columns", h.columns.map .int),
    ("type", h.type.map .string),
    ("unsafeHTML", h.unsafeHtml.map .string)])

/-- A definition as JSON. -/
def Definition.toJson (d : Definition) : Json :=
  .object (present [
    ("title", some (.string d.title)),
    ("id", some (.string d.id)),
    ("plugins", some (.object [("da", d.hints.toJson)])),
    ("filter", d.filter.map .string),
    ("model", d.model.map .string)])

/-- A choice as JSON. -/
def FieldOption.toJson (o : FieldOption) : Json :=
  .object [("name", .string o.name), ("value", .string o.value)]

/-- A field as JSON. -/
def ModelField.toJson (f : ModelField) : Json :=
  .object (present [
    ("component", some (.string f.component)),
    ("name", some (.string f.name)),
    ("value", f.value.map .string),
    ("label", f.label.map .string),
    ("valueType", f.valueType.map .string),
    ("required", f.required.map .bool),
    ("description", f.description.map .string),
    ("hidden", f.hidden.map .bool),
    ("multi", f.multi.map .bool),
    ("options", f.options.map fun options => .array (options.map (·.toJson)))])

/-- A model as JSON. -/
def ComponentModel.toJson (m : ComponentModel) : Json :=
  .object [("id", .string m.id), ("fields", .array (m.fields.map (·.toJson)))]

/-- A filter as JSON. -/
def ComponentFilter.toJson (f : ComponentFilter) : Json :=
  .object [("id", .string f.id), ("components", .strings f.components)]

/-- A schema as JSON. -/
def AuthoringSchema.toJson (s : AuthoringSchema) : Json :=
  .object [
    ("definitions", .array (s.definitions.map (·.toJson))),
    ("models", .array (s.models.map (·.toJson))),
    ("filters", .array (s.filters.map (·.toJson)))]

end BlockAuthoring
