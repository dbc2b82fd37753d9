import BlockAuthoring.Script.Source
import BlockAuthoring.Script.Grammar
import BlockAuthoring.Script.Violation

/-!
# The module gate

A block's script is looked at only if it is a strict module: readable text, well formed, and free
of violations. `moduleTree` says so, or why not.
-/

namespace BlockAuthoring.Script

/-- Why a script is refused. -/
inductive Refusal where
  /-- The source holds a surrogate, the first of them at this line and column. -/
  | unpairedSurrogate (line column : Nat)
  | malformed
  | violation (violation : Violation) (line column : Nat)
  deriving DecidableEq, Repr

namespace Violation

/-- What a violation is called. -/
def detail : Violation → String
  | markup => "JSX is not valid JavaScript"
  | withStatement => "'with' is not allowed in strict mode"
  | strayReturn => "'return' outside of function"
  | legacyNumber => "legacy octal literals are not allowed in strict mode"
  | secondDefaultExport => "duplicate export 'default'"
  | redeclared name => "identifier '" ++ String.ofList name ++ "' has already been declared"

end Violation

namespace Refusal

/-- Line and column of a refusal, where it has them. -/
def place? : Refusal → Option (Nat × Nat)
  | unpairedSurrogate line column => some (line, column)
  | malformed => none
  | violation _ line column => some (line, column)

/-- The text of a refusal. -/
def message (r : Refusal) : String :=
  let at' (detail : String) (line column : Nat) : String :=
    detail ++ " at line " ++ toString line ++ ", column " ++ toString column
  "Failed to analyze block structure: " ++
    match r with
    | unpairedSurrogate line column => at' "invalid character (unpaired surrogate)" line column
    | malformed => "<syntax error>"
    | violation v line column => at' v.detail line column

end Refusal

/-- Why a well-formed script is refused: for its first offence, at the start of the offending
node. -/
def Node.refusal? (root : Node) : Option Refusal :=
  root.firstOffence.map fun o => .violation o.violation o.node.start.line o.node.start.column

/-- The tree of a script that is a strict module. -/
def moduleOfText (text : List Char) : Except Refusal Node :=
  match parse? text with
  | none => .error .malformed
  | some root =>
    match root.refusal? with
    | some r => .error r
    | none => .ok root

/-- The tree of a source that is a strict module. Surrogates are refused before anything else is
looked at. -/
def moduleTree (source : Source) : Except Refusal Node :=
  match source.firstSurrogate with
  | some p => .error (.unpairedSurrogate p.line p.column)
  | none => moduleOfText (source.filterMap CodePoint.char?)

end BlockAuthoring.Script
