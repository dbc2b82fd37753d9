import BlockAuthoring.Tool.Analysis
import BlockAuthoring.Tool.BlockSource

/-!
# Listing and analyzing blocks

The tools that look at blocks: which there are, and what one of them is like.
-/

namespace BlockAuthoring

/-- The blocks of a source. -/
structure BlockListing where
  source : String
  blocks : List BlockInfo
  deriving Repr, Inhabited

/-- A listing as JSON. -/
def BlockListing.toJson (l : BlockListing) : Json :=
  .object [("source", .string l.source), ("blocks_found", .int l.blocks.length),
    ("blocks", .array (l.blocks.map (·.toJson)))]

/-- Lists the blocks of a place. -/
def listBlocks (place : BlockPlace) : Act BlockListing := do
  let source ← BlockSource.resolve place
  return ⟨source.description, ← source.list⟩

/-- The code that is meant: the one that is given, else the one of a block of a place. -/
def meantCode (place : BlockPlace) (blockName : String) : Option String → Act String
  | some code => pure code
  | none => do (← BlockSource.resolve place).load blockName

/-- Analyzes a block. The name is only needed where no code is given. -/
def analyzeBlock (place : BlockPlace) (blockName code : Option String) : Act BlockAnalysis := do
  let name := blockName.getD ""
  if code.isNone && name.isEmpty then throw .nothingToAnalyze
  let text ← meantCode place name code
  Act.ofExcept .analysis (BlockAnalysis.ofCode blockName text)

end BlockAuthoring
