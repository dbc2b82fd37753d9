import BlockAuthoring.Schema.Reading
import BlockAuthoring.Schema.Selector

/-!
# Built-in content

The schemas of content that every project has: page metadata, text, images and sections; and the
files at the root that gather the schemas of a project by reference.
-/

namespace BlockAuthoring

namespace Builtin

/-! ## Schemas -/

/-- The metadata of a page. -/
def pageSchema : AuthoringSchema :=
  { models := [
      { id := "page-metadata"
        fields := [
          { component := "text", name := "title", label := some "Title" },
          { component := "text", name := "description", label := some "Description" },
          { component := "reference", name := "image", label := some "Image" },
          { component := "text", name := "robots", label := some "Robots"
            description := some "Index control via robots" }] }] }

/-- Text, which is edited in place. -/
def textSchema : AuthoringSchema :=
  { definitions := [
      { title := "Text", id := "text", hints := { name := some "text", type := some "text" } }] }

/-- An image with its alternative text. -/
def imageSchema : AuthoringSchema :=
  { definitions := [
      { title := "Image", id := "image", hints := { name := some "image", type := some "image" } }]
    models := [
      { id := "image"
        fields := [
          { component := "reference", name := "image", hidden := some true, multi := some false },
          { component := "reference", name := Selector.imageSource 2, label := some "Image"
            multi := some false },
          { component := "text", name := Selector.imageAlt 2, label := some "Alt Text" }] }] }

/-- A section, which takes text, images and the components given. -/
def sectionSchema (components : List String) : AuthoringSchema :=
  { definitions := [
      { title := "Section", id := "section", hints := { unsafeHtml := some "<div></div>" }
        filter := some "section", model := some "section" }]
    models := [
      { id := "section"
        fields := [
          { component := "multiselect", name := "style", label := some "Style"
            options := some [⟨"Highlight", "highlight"⟩] }] }]
    filters := [⟨"section", "text" :: "image" :: components⟩] }

/-- The components a section takes, read out of JSON. They are checked as members of its filter,
behind the two that it always takes. -/
def sectionComponents (names : List Json) : Json.Checked (List String) :=
  (Json.Shape.itemsFrom Json.Shape.text 2 names).under (.member "components")

/-! ## Gathering files -/

/-- A reference to a part of other files. -/
def reference (target : String) : Json := .object [("...", .string target)]

/-- The file that gathers the definitions in groups. -/
def definitionTemplate : Json :=
  let group (title id : String) (references : List String) : Json :=
    .object [("title", .string title), ("id", .string id),
      ("components", .array (references.map reference))]
  .object [("groups", .array [
    group "Default Content" "default" ["./text.json#/definitions", "./image.json#/definitions"],
    group "Sections" "sections" ["./section.json#/definitions"],
    group "Blocks" "blocks" ["./blocks/*.json#/definitions"]])]

/-- The file that gathers the models. -/
def modelsTemplate : Json :=
  .array (["./page.json#/models", "./text.json#/models", "./image.json#/models",
    "./section.json#/models", "./blocks/*.json#/models"].map reference)

/-- The file that gathers the filters. The page itself takes sections. -/
def filtersTemplate : Json :=
  .array [
    .object [("id", .string "main"), ("components", .strings ["section"])],
    reference "./section.json#/filters", reference "./blocks/*.json#/filters"]

/-- The names of the files that hold built-in schemas. -/
def schemaFiles : List String := ["page.json", "text.json", "image.json", "section.json"]

/-- The names of the gathering files. -/
def templateFiles : List String :=
  ["component-definition.json", "component-models.json", "component-filters.json"]

/-- All files that a project needs besides those of its blocks, by name. -/
def files (components : List String) : List (String × Json) :=
  schemaFiles.zip ([pageSchema, textSchema, imageSchema, sectionSchema components].map (·.toJson))
    ++ templateFiles.zip [definitionTemplate, modelsTemplate, filtersTemplate]

end Builtin

end BlockAuthoring
