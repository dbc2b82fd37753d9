import BlockAuthoring.Analysis.Record
import BlockAuthoring.Schema.Model
import BlockAuthoring.Schema.Selector
import BlockAuthoring.Text.Space

/-!
# Synthesis

The authoring schema of an analyzed block: a definition for the insert menu, one field for each
column of its table, and for containers an item definition together with the filter that lets it
in.
-/

namespace BlockAuthoring

/-- Why there is no schema for a block. -/
inductive SynthesisError where
  | blankName
  | selector (fault : Number.NumeralFault)
  deriving DecidableEq, Repr

namespace SynthesisError

/-- The wording of an error. -/
def message : SynthesisError → String
  | blankName => "Block name must not be empty"
  | selector (.tooManyDigits count) => Number.tooManyDigitsMessage count
  | selector .notANumeral => ""

end SynthesisError

namespace Synthesis

/-- The id of the items of a container. -/
def itemId (name : String) : String := name ++ "-item"

/-- The title of a block. -/
def title (name : String) : String := String.ofList (Text.titleOf name.toList)

/-- The rows of a block's table. Only a table that is no container has more than one. -/
def primaryRows (r : AnalysisRecord) : Nat :=
  match r.expectedStructure.type, r.isContainer, r.expectedStructure.rows with
  | .table, false, .count n => n
  | _, _, _ => 1

/-- The rows of an item's table. -/
def itemRows (r : AnalysisRecord) : Nat :=
  if r.expectedStructure.rows == .multiple then 2 else 1

/-- The definition of a block. -/
def primaryDefinition (name : String) (r : AnalysisRecord) : Definition :=
  { title := title name, id := name
    hints :=
      { name := some name, rows := some (primaryRows r)
        columns := some r.expectedStructure.columns } }

/-- The definition of a container's items. -/
def itemDefinition (name : String) (r : AnalysisRecord) : Definition :=
  { title := title name ++ " Item", id := itemId name
    hints := { name := some (itemId name), rows := some (itemRows r), columns := some 0 } }

/-- The definitions of a block. -/
def definitions (name : String) (r : AnalysisRecord) : List Definition :=
  primaryDefinition name r :: if r.isContainer then [itemDefinition name r] else []

/-- The author's wish for the field at a place. Wishes without a text count as none. -/
def wish (overrides : List (Option FieldOverride)) (index : Nat)
    (part : FieldOverride → Option String) : Option String :=
  (((overrides[index]?).join.bind part)).filter (· ≠ "")

/-- The field at a place. Only the first one is required. -/
def field (overrides : List (Option FieldOverride)) (index : Nat) :
    Except Number.NumeralFault ModelField :=
  let selector := Selector.child index
  (Selector.label selector (wish overrides index (·.label))).map fun label =>
    { component := (wish overrides index (·.component)).getD "richtext"
      name := selector
      value := some ""
      label := some label
      valueType := some "string"
      required := if index = 0 then some true else none }

/-- The model of a block: of its items, if it is a container. -/
def model (name : String) (r : AnalysisRecord) (overrides : List (Option FieldOverride)) :
    Except Number.NumeralFault ComponentModel :=
  ((List.range r.expectedStructure.columns).mapM (field overrides)).map fun fields =>
    { id := if r.isContainer then itemId name else name, fields }

/-- The filters of a block: a container takes its items. -/
def filters (name : String) (r : AnalysisRecord) : List ComponentFilter :=
  if r.isContainer then [⟨name, [itemId name]⟩] else []

end Synthesis

/-- The schema of an analyzed block, with the author's wishes for its fields. -/
def synthesize (name : String) (r : AnalysisRecord) (overrides : List (Option FieldOverride)) :
    Except SynthesisError AuthoringSchema :=
  if Text.isBlank name.toList then .error .blankName
  else
    match Synthesis.model name r overrides with
    | .error fault => .error (.selector fault)
    | .ok model => .ok ⟨Synthesis.definitions name r, [model], Synthesis.filters name r⟩

end BlockAuthoring
