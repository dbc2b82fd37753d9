import BlockAuthoring.Json.Value

/-!
# Analysis records

What the analysis says about a block: the table it expects to be authored, the elements it
creates, how it reaches into its children, and how complex it is. The complexity follows from the
rest of a record and is never stored.
-/

namespace BlockAuthoring

/-- The overall shape of the table a block expects. -/
inductive StructureType where
  | unknown
  | table
  | configTable
  deriving DecidableEq, Repr, Inhabited

/-- How many rows a block expects: a number, or as many as the author likes. -/
inductive RowCount where
  | count (n : Nat)
  | multiple
  deriving DecidableEq, Repr, Inhabited

/-- How a block reaches into its children. -/
inductive AccessType where
  | indexAccess
  | spread
  deriving DecidableEq, Repr, Inhabited

/-- An access to the children, with its index if it has one. -/
structure ChildrenAccess where
  type : AccessType
  index : Option Int
  deriving DecidableEq, Repr, Inhabited

/-- The table a block expects to be authored. -/
structure ExpectedStructure where
  type : StructureType
  rows : RowCount
  columns : Nat
  deriving DecidableEq, Repr, Inhabited

/-- How complex a block is. -/
inductive Complexity where
  | simple
  | moderate
  | complex
  deriving DecidableEq, Repr, Inhabited

/-- What the analysis found out about a block. -/
structure AnalysisRecord where
  expectedStructure : ExpectedStructure
  domTransformations : List String
  isContainer : Bool
  requiresObserver : Bool
  childrenAccessPatterns : List ChildrenAccess
  hasAsync : Bool
  hasVariants : Bool
  usesReadBlockConfig : Bool
  configKeys : List String
  deriving DecidableEq, Repr, Inhabited

/-! ## Names -/

/-- The name of a shape. -/
def StructureType.name : StructureType → String
  | unknown => "unknown"
  | table => "table"
  | configTable => "config-table"

/-- The name of an access. -/
def AccessType.name : AccessType → String
  | indexAccess => "index-access"
  | spread => "spread"

/-- The name of a complexity. -/
def Complexity.name : Complexity → String
  | simple => "SIMPLE"
  | moderate => "MODERATE"
  | complex => "COMPLEX"

/-! ## Complexity -/

/-- What the complexity is scored from. -/
structure ComplexitySignals where
  anyTransformation : Bool
  isContainer : Bool
  requiresObserver : Bool
  hasVariants : Bool
  hasAsync : Bool
  deriving DecidableEq, Repr

namespace Complexity

/-- Twice the score: two points each for a transformation, a container and an observer, one each
for variants and asynchronous work. -/
def halfPoints (s : ComplexitySignals) : Nat :=
  2 * (s.anyTransformation.toNat + s.isContainer.toNat + s.requiresObserver.toNat)
    + s.hasVariants.toNat + s.hasAsync.toNat

/-- Up to one point is simple, up to two are moderate. -/
def score (s : ComplexitySignals) : Complexity :=
  if halfPoints s ≤ 2 then simple else if halfPoints s ≤ 4 then moderate else complex

/-- The rank of a complexity, from one. -/
def rank : Complexity → Nat
  | simple => 1
  | moderate => 2
  | complex => 3

/-- What is typical of a complexity. -/
def characteristics : Complexity → List String
  | simple => ["No DOM transformations", "Direct children access", "No container behavior"]
  | moderate => ["Minor DOM transformations", "Some iteration", "May have variants"]
  | complex =>
    ["Multiple DOM transformations", "Container block", "Dynamic content", "Requires observers"]

/-- Rank and characteristics, as they are reported. -/
def description (c : Complexity) : Json :=
  .object [("score", .int c.rank), ("characteristics", .strings c.characteristics)]

end Complexity

namespace AnalysisRecord

/-- What the complexity of a block is scored from. -/
def signals (r : AnalysisRecord) : ComplexitySignals :=
  ⟨!r.domTransformations.isEmpty, r.isContainer, r.requiresObserver, r.hasVariants, r.hasAsync⟩

/-- How complex a block is. -/
def complexity (r : AnalysisRecord) : Complexity := .score r.signals

end AnalysisRecord

/-! ## As JSON -/

/-- Rows as JSON: a number or the word. -/
def RowCount.toJson : RowCount → Json
  | count n => .int n
  | multiple => .string "multiple"

/-- An expected table as JSON. -/
def ExpectedStructure.toJson (s : ExpectedStructure) : Json :=
  .object [("type", .string s.type.name), ("rows", s.rows.toJson), ("columns", .int s.columns)]

/-- An access as JSON; without an index, it has no such member. -/
def ChildrenAccess.toJson (a : ChildrenAccess) : Json :=
  .object (Json.present [("type", some (.string a.type.name)), ("index", a.index.map .int)])

/-- A record as JSON, its complexity included. -/
def AnalysisRecord.toJson (r : AnalysisRecord) : Json :=
  .object [
    ("expectedStructure", r.expectedStructure.toJson),
    ("domTransformations", .strings r.domTransformations),
    ("isContainer", .bool r.isContainer),
    ("requiresObserver", .bool r.requiresObserver),
    ("childrenAccessPatterns", .array (r.childrenAccessPatterns.map (·.toJson))),
    ("hasAsync", .bool r.hasAsync),
    ("hasVariants", .bool r.hasVariants),
    ("usesReadBlockConfig", .bool r.usesReadBlockConfig),
    ("configKeys", .strings r.configKeys),
    ("complexity", .string r.complexity.name)]

end BlockAuthoring
