import BlockAuthoring.Json.Shape
import BlockAuthoring.Schema.Model

/-!
# Reading authoring schemas

A schema out of its JSON form. The lists of a schema may be missing but not `null`; members that
have no value may be either.
-/

namespace BlockAuthoring

open Json Shape

/-- Hints. -/
def RenderingHints.shape : Shape RenderingHints :=
  members fun v => RenderingHints.mk
    <$> nullable "name" text v
    <*> nullable "rows" integer v
    <*> nullable "columns" integer v
    <*> nullable "type" text v
    <*> nullable ⟨"unsafeHTML", "unsafe_html"⟩ text v

/-- A definition. Its hints are those for the authoring plugin. -/
def Definition.shape : Shape Definition :=
  members fun v => Definition.mk
    <$> required "title" text v
    <*> required "id" text v
    <*> defaulted "plugins" {} (members (defaulted "da" {} RenderingHints.shape)) v
    <*> nullable "filter" text v
    <*> nullable "model" text v

/-- A choice. -/
def FieldOption.shape : Shape FieldOption :=
  members fun v => FieldOption.mk <$> required "name" text v <*> required "value" text v

/-- A field. -/
def ModelField.shape : Shape ModelField :=
  members fun v => ModelField.mk
    <$> Shape.required "component" text v
    <*> Shape.required "name" text v
    <*> nullable "value" text v
    <*> nullable "label" text v
    <*> nullable ⟨"valueType", "value_type"⟩ text v
    <*> nullable "required" flag v
    <*> nullable "description" text v
    <*> nullable "hidden" flag v
    <*> nullable "multi" flag v
    <*> nullable "options" (listOf FieldOption.shape) v

/-- A model. -/
def ComponentModel.shape : Shape ComponentModel :=
  members fun v => ComponentModel.mk
    <$> required "id" text v
    <*> defaulted "fields" [] (listOf ModelField.shape) v

/-- A filter. -/
def ComponentFilter.shape : Shape ComponentFilter :=
  members fun v => ComponentFilter.mk
    <$> required "id" text v
    <*> defaulted "components" [] (listOf text) v

/-- A schema. -/
def AuthoringSchema.shape : Shape AuthoringSchema :=
  members fun v => AuthoringSchema.mk
    <$> defaulted "definitions" [] (listOf Definition.shape) v
    <*> defaulted "models" [] (listOf ComponentModel.shape) v
    <*> defaulted "filters" [] (listOf ComponentFilter.shape) v

/-- An override of a field. -/
def FieldOverride.shape : Shape FieldOverride :=
  members fun v => FieldOverride.mk <$> nullable "label" text v <*> nullable "type" text v

end BlockAuthoring
