import BlockAuthoring.Analysis.Analyze
import BlockAuthoring.Schema.Reading
import BlockAuthoring.Schema.Report
import BlockAuthoring.Schema.Synthesis

/-!
# The generation tool

The authoring schema of a block out of its code, together with a summary of the analysis and the
report on the schema.
-/

namespace BlockAuthoring

/-- Why no schema is made out of a code. -/
inductive GenerationError where
  | analysis (error : AnalysisError)
  /-- The author's wishes are no list: this is their type. -/
  | wishesNotIterable (type : String)
  | wish (issues : List Json.Issue)
  | synthesis (error : SynthesisError)
  deriving DecidableEq, Repr

/-- The author's wishes, one a field. -/
def readWishes (wishes : List Json) : Except GenerationError (List FieldOverride) :=
  wishes.mapM fun v =>
    match FieldOverride.shape v with
    | .ok o => .ok o
    | .issues found => .error (.wish found)

/-- The parts of a value that is gone through part by part: the items of an array, the keys of an
object, the characters of a string. Whatever says nothing has none. -/
def Json.iterated (v : Json) : Except GenerationError (List Json) :=
  if !v.isTruthy then .ok []
  else
    match v with
    | .array items => .ok items
    | .object members => .ok (members.map fun m => .string m.1)
    | .string s => .ok (s.toList.map fun c => .string c.toString)
    | .int _ => .error (.wishesNotIterable "int")
    | .float _ => .error (.wishesNotIterable "float")
    | .bool _ => .error (.wishesNotIterable "bool")
    | .null => .ok []

/-- Overrides of fields, where `null` stands for none. -/
def readOverrides (overrides : List Json) :
    Except GenerationError (List (Option FieldOverride)) :=
  overrides.mapM fun v =>
    if v.isNull then .ok none
    else
      match FieldOverride.shape v with
      | .ok o => .ok (some o)
      | .issues found => .error (.wish found)

/-- The schema of an analyzed block, with overrides that are still to be read. The name is looked
at before them. -/
def synthesizeFrom (name : String) (r : AnalysisRecord) (overrides : List Json) :
    Except GenerationError AuthoringSchema :=
  if Text.isBlank name.toList then .error (.synthesis .blankName)
  else do
    let overrides ← readOverrides overrides
    (synthesize name r overrides).mapError .synthesis

/-- A schema that was made for a block. -/
structure GeneratedBlock where
  blockName : String
  record : AnalysisRecord
  schema : AuthoringSchema
  deriving DecidableEq, Repr

namespace GeneratedBlock

/-- The schema for a code, with the author's wishes for its fields. -/
def ofCode (blockName code : String) (wishes : Json) : Except GenerationError GeneratedBlock := do
  let record ← (analyze code).mapError .analysis
  let overrides ← readWishes (← wishes.iterated)
  let schema ← (synthesize blockName record (overrides.map some)).mapError .synthesis
  return ⟨blockName, record, schema⟩

/-- The report on the schema. -/
def report (g : GeneratedBlock) : Report := .ofSchema g.schema.toJson

/-- The members of a result: name, a summary of the analysis, the schema and its report. -/
def members (g : GeneratedBlock) : List (String × Json) :=
  [("block_name", .string g.blockName),
    ("analysis", .object [
      ("complexity", .string g.record.complexity.name),
      ("is_container", .bool g.record.isContainer),
      ("requires_observer", .bool g.record.requiresObserver),
      ("dom_transformations", .strings g.record.domTransformations)]),
    ("json_config", g.schema.toJson),
    ("validation", g.report.toJson)]

end GeneratedBlock

end BlockAuthoring
