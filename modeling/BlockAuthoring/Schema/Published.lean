import BlockAuthoring.Json.Value
import BlockAuthoring.Text.Title

/-!
# The published schema

The form of authoring schemas as a JSON Schema document, for tools that read or write them. Each
kind of object is described by the list of its members.
-/

namespace BlockAuthoring

namespace Published

/-- The values a member may have. -/
inductive ValueForm where
  | string
  | integer
  | boolean
  /-- An object of a kind. -/
  | kind (name : String)
  | list (item : ValueForm)
  deriving Repr

/-- Whether a member has to be there, has a value of its own if it is missing, or may be `null`. -/
inductive Presence where
  | required
  | defaulted
  | nullable
  deriving DecidableEq, Repr

/-- A member of an object. -/
structure Member where
  key : String
  form : ValueForm
  presence : Presence := .required
  deriving Repr

/-- A kind of objects. -/
structure ObjectKind where
  name : String
  description : String
  members : List Member
  deriving Repr

/-! ## As JSON -/

/-- The member that holds a type. -/
def typed (name : String) : List (String × Json) := [("type", .string name)]

/-- The constraint that a form puts on a value. -/
def ValueForm.constraint : ValueForm → List (String × Json)
  | string => typed "string"
  | integer => typed "integer"
  | boolean => typed "boolean"
  | kind name => [("$ref", .string ("#/$defs/" ++ name))]
  | list item => ("items", .object item.constraint) :: typed "array"

/-- The title of a member: its key as a word. -/
def Member.title (m : Member) : Json :=
  .string (String.ofList (Text.capitalized (m.key.toList.map Char.toLower)))

/-- The description of a member. A reference stands alone. -/
def Member.toJson (m : Member) : Json :=
  match m.presence, m.form with
  | .nullable, form =>
    .object [("anyOf", .array [.object form.constraint, .object (typed "null")]),
      ("default", .null), ("title", m.title)]
  | _, .kind name => .object (ValueForm.kind name).constraint
  | _, form => .object (form.constraint ++ [("title", m.title)])

/-- The description of a kind of objects. -/
def ObjectKind.toJson (k : ObjectKind) : List (String × Json) :=
  let required := (k.members.filter (·.presence == .required)).map (·.key)
  [("description", .string k.description),
    ("properties", .object (k.members.map fun m => (m.key, m.toJson)))]
    ++ (if required.isEmpty then [] else [("required", .strings required)])
    ++ [("title", .string k.name), ("type", .string "object")]

/-! ## The kinds of objects -/

/-- Filters. -/
def componentFilter : ObjectKind :=
  ⟨"ComponentFilter", "Which components may be placed inside a container.",
    [⟨"id", .string, .required⟩, ⟨"components", .list .string, .defaulted⟩]⟩

/-- Models. -/
def componentModel : ObjectKind :=
  ⟨"ComponentModel", "The field set edited for a component id.",
    [⟨"id", .string, .required⟩, ⟨"fields", .list (.kind "ModelField"), .defaulted⟩]⟩

/-- Hints. -/
def renderingHints : ObjectKind :=
  ⟨"DaPlugin", "Rendering hints for the document authoring plugin.",
    [⟨"name", .string, .nullable⟩, ⟨"rows", .integer, .nullable⟩, ⟨"columns", .integer, .nullable⟩,
     ⟨"type", .string, .nullable⟩, ⟨"unsafeHTML", .string, .nullable⟩]⟩

/-- Definitions. -/
def definition : ObjectKind :=
  ⟨"Definition", "A component definition shown in the editor\x27s insert menu.",
    [⟨"title", .string, .required⟩, ⟨"id", .string, .required⟩,
     ⟨"plugins", .kind "Plugins", .defaulted⟩, ⟨"filter", .string, .nullable⟩,
     ⟨"model", .string, .nullable⟩]⟩

/-- Choices. -/
def fieldOption : ObjectKind :=
  ⟨"FieldOption", "One option of a select or multiselect field.",
    [⟨"name", .string, .required⟩, ⟨"value", .string, .required⟩]⟩

/-- Fields. -/
def modelField : ObjectKind :=
  ⟨"ModelField", "A single editable field bound to a selector.",
    [⟨"component", .string, .required⟩, ⟨"name", .string, .required⟩,
     ⟨"value", .string, .nullable⟩, ⟨"label", .string, .nullable⟩,
     ⟨"valueType", .string, .nullable⟩, ⟨"required", .boolean, .nullable⟩,
     ⟨"description", .string, .nullable⟩, ⟨"hidden", .boolean, .nullable⟩,
     ⟨"multi", .boolean, .nullable⟩, ⟨"options", .list (.kind "FieldOption"), .nullable⟩]⟩

/-- The hints of a definition. -/
def plugins : ObjectKind :=
  ⟨"Plugins", "Plugin configuration attached to a definition.",
    [⟨"da", .kind "DaPlugin", .defaulted⟩]⟩

/-- Schemas. -/
def authoringSchema : ObjectKind :=
  ⟨"AuthoringSchema",
    "Definitions, models and filters for one component or content type.\n\nSerializes to the "
      ++ "persisted JSON contract with exactly the top-level\nkeys \x60\x60definitions\x60\x60, "
      ++ "\x60\x60models\x60\x60 and \x60\x60filters\x60\x60.",
    [⟨"definitions", .list (.kind "Definition"), .defaulted⟩,
     ⟨"models", .list (.kind "ComponentModel"), .defaulted⟩,
     ⟨"filters", .list (.kind "ComponentFilter"), .defaulted⟩]⟩

/-- The kinds of objects inside a schema, by name. -/
def parts : List ObjectKind :=
  [componentFilter, componentModel, renderingHints, definition, fieldOption, modelField, plugins]

/-- The whole document. -/
def document : Json :=
  .object (("$defs", .object (parts.map fun k => (k.name, .object k.toJson)))
    :: authoringSchema.toJson)

end Published

end BlockAuthoring
