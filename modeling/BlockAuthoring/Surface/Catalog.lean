import BlockAuthoring.Surface.Pattern

/-!
# The catalog of patterns

What the analysis looks for: elements a block creates, signs that it is a container or is none,
and the ways it reaches into its children. The order of each table counts.
-/

namespace BlockAuthoring.Surface

open Text

/-- The creation of an element that changes authored markup. -/
structure Transformation where
  tag : String
  /-- Short name, such as `div->ul`. -/
  name : String
  /-- The editor's marks have to be put back after the block is decorated. -/
  needsObserver : Bool
  deriving DecidableEq, Repr

/-- How strongly a sign speaks. -/
inductive Confidence where
  | high
  | medium
  | low
  deriving DecidableEq, Repr

/-- A sign that a block is a container, or that it is none. -/
structure ContainerSign where
  pattern : Pattern
  isContainer : Bool
  confidence : Confidence

/-- Either quote. -/
def isQuote (c : Char) : Bool := c == '"' || c == '\x27'

namespace Transformation

/-- A call that creates the element: the tag in any quotes. -/
def pattern (t : Transformation) : Pattern := fun text => do
  let opening ← behind "createElement(" text
  let name ← (match opening with
    | q :: rest => if isQuote q then some rest else none
    | [] => none)
  match ← behind t.tag name with
  | q :: ')' :: _ => if isQuote q then some ⟨t.tag.length + 17, []⟩ else none
  | _ => none

/-- The pattern as it is reported. -/
def patternText (t : Transformation) : String :=
  "createElement\\([\x27\"]" ++ t.tag ++ "[\x27\"]\\)"

end Transformation

/-- The elements whose creation changes authored markup. -/
def transformations : List Transformation :=
  [⟨"details", "div->details", true⟩, ⟨"ul", "div->ul", true⟩, ⟨"li", "div->li", true⟩,
   ⟨"blockquote", "div->blockquote", false⟩, ⟨"summary", "div->summary", true⟩,
   ⟨"picture", "img->picture", true⟩]

/-- Iteration with an arrow function whose parameters stand in parentheses. -/
def forEachArrow : Pattern := fun text => do
  let rest ← behind ".forEach((" text
  let length ← lastArrow 10 rest
  return ⟨length, []⟩

/-- The child under a literal index; captures the digits. -/
def indexAccess : Pattern := run ".children[" isDecimal "]"

/-- All children of something, spread into an array; captures its name. -/
def spreadAccess : Pattern := run "[..." isWord ".children]"

/-- The signs for and against a container. The last one found decides. -/
def containerSigns : List ContainerSign :=
  [⟨forEachArrow, true, .high⟩, ⟨word "data-aue-model", true, .medium⟩,
   ⟨indexAccess, false, .low⟩]

/-- The call that reads a block as a table of keys and values. -/
def readBlockConfig : Pattern := spaced "readBlockConfig" "("

/-- An assignment to the class name. -/
def classNameAssignment : Pattern := spaced "className" "="

end BlockAuthoring.Surface
