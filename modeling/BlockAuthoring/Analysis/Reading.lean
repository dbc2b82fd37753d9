import BlockAuthoring.Analysis.Record
import BlockAuthoring.Json.Shape

/-!
# Reading analysis records

A record out of its JSON form. Every member may be missing; the complexity is not read, because it
follows from the rest.
-/

namespace BlockAuthoring

open Json Shape

/-- The shapes by their names. -/
def StructureType.vocabulary : List (String × StructureType) :=
  [unknown, table, configTable].map fun t => (t.name, t)

/-- The kinds of access by their names. -/
def AccessType.vocabulary : List (String × AccessType) :=
  [indexAccess, spread].map fun t => (t.name, t)

/-- Rows: a number from one, or the word. -/
def RowCount.shape : Shape RowCount :=
  orElse "constrained-int" (fun v => (integerFrom 1 v).map count)
    "literal['multiple']" (exactly "multiple" multiple)

/-- An expected table. -/
def ExpectedStructure.shape : Shape ExpectedStructure :=
  members fun v => ExpectedStructure.mk
    <$> defaulted "type" .unknown (word StructureType.vocabulary) v
    <*> defaulted "rows" (.count 1) RowCount.shape v
    <*> defaulted "columns" 1 (integerFrom 0) v

/-- An access to the children. -/
def ChildrenAccess.shape : Shape ChildrenAccess :=
  members fun v => ChildrenAccess.mk
    <$> required "type" (word AccessType.vocabulary) v
    <*> nullable "index" integer v

/-- A record. -/
def AnalysisRecord.shape : Shape AnalysisRecord :=
  members fun v => AnalysisRecord.mk
    <$> defaulted ⟨"expectedStructure", "expected_structure"⟩ ⟨.unknown, .count 1, 1⟩
      ExpectedStructure.shape v
    <*> defaulted ⟨"domTransformations", "dom_transformations"⟩ [] (sequenceOf text) v
    <*> defaulted ⟨"isContainer", "is_container"⟩ false flag v
    <*> defaulted ⟨"requiresObserver", "requires_observer"⟩ false flag v
    <*> defaulted ⟨"childrenAccessPatterns", "children_access_patterns"⟩ []
      (sequenceOf ChildrenAccess.shape) v
    <*> defaulted ⟨"hasAsync", "has_async"⟩ false flag v
    <*> defaulted ⟨"hasVariants", "has_variants"⟩ false flag v
    <*> defaulted ⟨"usesReadBlockConfig", "uses_read_block_config"⟩ false flag v
    <*> defaulted ⟨"configKeys", "config_keys"⟩ [] (sequenceOf text) v

end BlockAuthoring
