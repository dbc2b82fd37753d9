import BlockAuthoring.Analysis.Record
import BlockAuthoring.Script.Gate
import BlockAuthoring.Surface.Catalog
import BlockAuthoring.Surface.ConfigKey
import BlockAuthoring.Number.Numeral

/-!
# Analysis of a block

Infers the table that a block's script expects. The script has to pass the module gate; after that
only its text counts. A configuration table overrides what indices and spreads say about rows and
columns, and the last container sign found decides about the container.
-/

namespace BlockAuthoring

open Surface

/-- Why a block is not analyzed. -/
inductive AnalysisError where
  | refused (refusal : Script.Refusal)
  /-- A child index has more digits than are converted. -/
  | indexTooLong (digits : Nat)
  deriving DecidableEq, Repr

namespace AnalysisError

/-- The wording of an error. -/
def message : AnalysisError → String
  | refused r => r.message
  | indexTooLong digits => Number.tooManyDigitsMessage digits

end AnalysisError

namespace Analysis

/-- The first digits in a text that stand together. -/
def firstDigits (text : List Char) : List Char :=
  (text.dropWhile (!Text.isDecimal ·)).takeWhile Text.isDecimal

/-- The index that a text mentions, if it has digits in it. -/
def indexIn? (text : List Char) : Except AnalysisError (Option Nat) :=
  let ds := firstDigits text
  if ds.isEmpty then .ok none
  else if Text.maxDigits < ds.length then .error (.indexTooLong ds.length)
  else .ok (some (Text.digitsValue ds))

/-- The literal child indices of a script, in its order and with repetitions. What matches is
searched once more for digits. -/
def childIndices (text : List Char) : Except AnalysisError (List Nat) :=
  (indexAccess.scan text).filterMapM fun o => indexIn? (o.matched text)

/-- The block's own children are spread into an array. -/
def spreadsBlock (text : List Char) : Bool :=
  (spreadAccess.captures text).contains "block".toList

/-- The transformations a script performs, in catalog order. -/
def transformationsIn (text : List Char) : List Transformation :=
  transformations.filter (·.pattern.occurs text)

/-- What the container signs say, the last one found deciding; `start` if none is found. -/
def containerBySigns (start : Bool) (text : List Char) : Bool :=
  containerSigns.foldl (fun found sign =>
    if sign.pattern.occurs text then sign.isContainer else found) start

/-- The record of a script whose child indices are known. -/
def recordOf (text : List Char) (indices : List Nat) : AnalysisRecord :=
  let isConfig := readBlockConfig.occurs text
  let isSpread := spreadsBlock text && !isConfig
  let iterates := (word ".forEach").occurs text
  let found := transformationsIn text
  { expectedStructure := {
      type := if isConfig then .configTable else if isSpread then .table else .unknown
      rows := if isConfig || (isSpread && iterates) then .multiple else .count 1
      columns :=
        if isConfig then 2
        else indices.foldl (fun most i => max most (i + 1)) 1 }
    domTransformations := found.map (·.name)
    isContainer := containerBySigns (isSpread && iterates) text
    requiresObserver := found.any (·.needsObserver)
    childrenAccessPatterns :=
      indices.map (fun i => ⟨.indexAccess, some (i : Int)⟩) ++
        if isSpread then [⟨.spread, none⟩] else []
    hasAsync := (word "async").occurs text || (word "await").occurs text
    hasVariants := (word "classList").occurs text || classNameAssignment.occurs text
    usesReadBlockConfig := isConfig
    configKeys := if isConfig then configKeys text else [] }

end Analysis

/-- The record of a script that passed the gate. -/
def analyzeModule (text : List Char) : Except AnalysisError AnalysisRecord :=
  (Analysis.childIndices text).map (Analysis.recordOf text)

/-- The record of a source, if it is a strict module. -/
def analyzeSource (source : Script.Source) : Except AnalysisError AnalysisRecord :=
  match Script.moduleTree source with
  | .error r => .error (.refused r)
  | .ok _ => analyzeModule (source.filterMap Script.CodePoint.char?)

/-- The record of a script, if it is a strict module. -/
def analyze (code : String) : Except AnalysisError AnalysisRecord :=
  match Script.moduleOfText code.toList with
  | .error r => .error (.refused r)
  | .ok _ => analyzeModule code.toList

end BlockAuthoring
