import BlockAuthoring.Json.Value

/-!
# Checking schemas

What is wrong with a JSON value as an authoring schema. Every part is checked on its own, so that
one bad part never hides another; a missing label is only a warning.
-/

namespace BlockAuthoring

/-- The kinds of remarks. -/
inductive RemarkKind where
  | invalidType
  | missingKey
  | missingField
  | missingLabel
  deriving DecidableEq, Repr

/-- The name of a kind of remark. -/
def RemarkKind.name : RemarkKind → String
  | invalidType => "invalid_type"
  | missingKey => "missing_key"
  | missingField => "missing_field"
  | missingLabel => "missing_label"

/-- Something to be said about a part of a schema. -/
structure Remark where
  path : String
  message : String
  kind : RemarkKind
  deriving DecidableEq, Repr

/-- What is wrong with a schema, and what could be better. -/
structure Report where
  errors : List Remark := []
  warnings : List Remark := []
  deriving DecidableEq, Repr

namespace Report

/-- The schema has no errors. -/
def isValid (r : Report) : Bool := r.errors.isEmpty

instance : Append Report := ⟨fun a b => ⟨a.errors ++ b.errors, a.warnings ++ b.warnings⟩⟩

/-- The reports of the items of a list, the first of them under `index`. -/
def ofItems (check : Nat → Json → Report) (index : Nat) : List Json → Report
  | [] => {}
  | v :: rest => check index v ++ ofItems check (index + 1) rest

/-- One error. -/
def error (path message : String) (kind : RemarkKind) : Report :=
  { errors := [⟨path, message, kind⟩] }

/-- One error about a missing member, unless a condition holds. -/
def expect (holds : Bool) (path message : String) : Report :=
  if holds then {} else error path message .missingField

/-- A report as JSON, with the messages only. -/
def toJson (r : Report) : Json :=
  .object [("valid", .bool r.isValid), ("errors", .strings (r.errors.map (·.message))),
    ("warnings", .strings (r.warnings.map (·.message)))]

/-! ## The parts of a schema -/

/-- A path with an index. -/
def indexed (path : String) (index : Nat) : String := path ++ "[" ++ toString index ++ "]"

/-- The value has hints for the authoring plugin. -/
def hasHints (definition : Json) : Bool := ((definition.get "plugins").get "da").isObject

/-- What is wrong with a definition. -/
def ofDefinition (index : Nat) (v : Json) : Report :=
  let path := indexed "definitions" index
  let subject := "Definition " ++ toString index
  if v.isObject then
    expect (v.get "title").isTruthy path (subject ++ ": missing \"title\"")
      ++ expect (v.get "id").isTruthy path (subject ++ ": missing \"id\"")
      ++ expect (hasHints v) path (subject ++ ": missing \"plugins.da\"")
  else error path (subject ++ ": not an object") .invalidType

/-- What is wrong with a field of a model. -/
def ofField (model : Nat) (index : Nat) (v : Json) : Report :=
  let path := indexed (indexed "models" model ++ ".fields") index
  let subject := "Model " ++ toString model ++ ", Field " ++ toString index
  if v.isObject then
    expect (v.get "component").isTruthy path (subject ++ ": missing \"component\"")
      ++ expect (v.get "name").isTruthy path (subject ++ ": missing \"name\" (CSS selector)")
      ++ if (v.get "label").isTruthy then {}
        else
          { warnings :=
              [⟨path, subject ++ ": missing \"label\" - recommended for UE UI", .missingLabel⟩] }
  else error path (subject ++ ": not an object") .invalidType

/-- What is wrong with a model. -/
def ofModel (index : Nat) (v : Json) : Report :=
  let path := indexed "models" index
  let subject := "Model " ++ toString index
  if v.isObject then
    expect (v.get "id").isTruthy path (subject ++ ": missing \"id\"")
      ++ match v.get "fields" with
        | .array fields => ofItems (ofField index) 0 fields
        | _ => error path (subject ++ ": missing \"fields\" array") .missingField
  else error path (subject ++ ": not an object") .invalidType

/-- What is wrong with a filter. -/
def ofFilter (index : Nat) (v : Json) : Report :=
  let path := indexed "filters" index
  let subject := "Filter " ++ toString index
  if v.isObject then
    expect (v.get "id").isTruthy path (subject ++ ": missing \"id\"")
      ++ expect (v.get "components").isArray path (subject ++ ": missing \"components\" array")
  else error path (subject ++ ": not an object") .invalidType

/-- What is wrong with one of the three lists of a schema. -/
def ofList (key : String) (check : Nat → Json → Report) (schema : Json) : Report :=
  match schema.get key with
  | .null => error key ("Missing \"" ++ key ++ "\" array") .missingKey
  | .array items => ofItems check 0 items
  | _ => error key ("\"" ++ key ++ "\" must be an array") .invalidType

/-- What is wrong with a schema. -/
def ofSchema (v : Json) : Report :=
  if v.isObject then
    ofList "definitions" ofDefinition v ++ ofList "models" ofModel v ++ ofList "filters" ofFilter v
  else error "" "Schema must be a JSON object" .invalidType

end Report

end BlockAuthoring
