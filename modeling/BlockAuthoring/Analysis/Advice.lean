import BlockAuthoring.Analysis.Analyze

/-!
# Advice on a block

Which changes of the document can strip the editor's marks, and how a block is best authored.
-/

namespace BlockAuthoring

open Surface

/-- A change of the document that can strip the editor's marks. -/
structure MutationWarning where
  transform : String
  pattern : String
  needsObserver : Bool
  /-- Said where putting the marks back does not help. -/
  warning : Option String
  deriving DecidableEq, Repr

namespace MutationWarning

/-- A warning as JSON. -/
def toJson (w : MutationWarning) : Json :=
  .object (Json.present [
    ("transform", some (.string w.transform)),
    ("pattern", some (.string w.pattern)),
    ("needsObserver", some (.bool w.needsObserver)),
    ("warning", w.warning.map .string)])

end MutationWarning

/-- The warnings for a script: every transformation of the catalog, then the replacement of whole
elements, then writes to their inner markup, which nothing can repair. -/
def mutationWarnings (text : List Char) : List MutationWarning :=
  (Analysis.transformationsIn text).map (fun t => ⟨t.name, t.patternText, true, none⟩) ++
    (if (word ".replaceWith(").occurs text
      then [⟨"element-replacement", "replaceWith", true, none⟩] else []) ++
    (if (word ".innerHTML").occurs text
      then [⟨"innerHTML-replacement", "innerHTML", false,
        some "innerHTML replacements may lose UE attributes"⟩] else [])

/-- How a block is best authored: as raw markup, or as a table of rows and columns. -/
structure Suggestion where
  useUnsafeHtml : Bool
  rows : Nat
  columns : Nat
  reason : Option String
  deriving DecidableEq, Repr

namespace Suggestion

/-- A suggestion as JSON. -/
def toJson (s : Suggestion) : Json :=
  .object (Json.present [
    ("useUnsafeHTML", some (.bool s.useUnsafeHtml)),
    ("rows", some (.int s.rows)),
    ("columns", some (.int s.columns)),
    ("reason", s.reason.map .string)])

end Suggestion

namespace AnalysisRecord

/-- Raw markup for a block that is complex or performs more than one transformation; else a table,
where any number of rows is suggested as one. -/
def suggestion (r : AnalysisRecord) : Suggestion :=
  if 1 < r.domTransformations.length || r.complexity == .complex then
    ⟨true, 1, 1, some "Complex DOM structure detected, recommend using unsafeHTML"⟩
  else
    let rows := match r.expectedStructure.rows with
      | .count n => n
      | .multiple => 1
    ⟨false, rows, r.expectedStructure.columns, none⟩

end AnalysisRecord

end BlockAuthoring
