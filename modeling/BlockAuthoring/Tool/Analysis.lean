import BlockAuthoring.Analysis.Advice

/-!
# The analysis tool

What is told about one block: its record, the complexity spelled out, the changes of the document
that need care, the suggested way to author it and the start of its code.
-/

namespace BlockAuthoring

/-- What is told about one block. -/
structure BlockAnalysis where
  /-- Nothing for code that came without a name. -/
  blockName : Option String
  record : AnalysisRecord
  mutations : List MutationWarning
  snippet : String
  deriving DecidableEq, Repr

namespace BlockAnalysis

/-- How much of the code is echoed. -/
def snippetLength : Nat := 500

/-- The start of a code; dots stand for what is left out. -/
def snippetOf (code : List Char) : String :=
  String.ofList (code.take snippetLength ++ if snippetLength < code.length then "...".toList else [])

/-- What is told about a code. -/
def ofCode (blockName : Option String) (code : String) : Except AnalysisError BlockAnalysis :=
  (analyze code).map fun record =>
    ⟨blockName, record, mutationWarnings code.toList, snippetOf code.toList⟩

/-- The members of an analysis, the code left out. -/
def summary (a : BlockAnalysis) : List (String × Json) :=
  [("block_name", .ofString? a.blockName),
    ("analysis", a.record.toJson),
    ("complexity_level", a.record.complexity.description),
    ("mutations", .array (a.mutations.map (·.toJson))),
    ("suggestion", a.record.suggestion.toJson)]

/-- An analysis as JSON. -/
def toJson (a : BlockAnalysis) : Json :=
  .object (a.summary ++ [("code_snippet", .string a.snippet)])

end BlockAnalysis

end BlockAuthoring
