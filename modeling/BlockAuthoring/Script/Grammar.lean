import BlockAuthoring.Script.Grammar.Statement

/-!
# The grammar of scripts

Ties the rules together. `parse?` reads a whole script: it succeeds exactly on the texts that the
grammar derives, and answers with the tree.
-/

namespace BlockAuthoring.Script

open Reader Rules

/-- The rule for a construct. -/
def Rules.rule (r : Rules) : Goal → Reader Node
  | .statement => r.statement
  | .block => r.block
  | .assignment allowIn => r.assignment allowIn
  | .cover allowIn => r.cover allowIn
  | .unary => r.unary
  | .constructed => r.constructed
  | .markup => r.markup

/-- The rules, nested at most `fuel` deep. -/
def readGoal : Nat → Goal → Reader Node
  | 0, _ => failure
  | fuel + 1, goal => Rules.rule ⟨fuel, readGoal fuel⟩ goal

/-- The `#!` line at the very front of a script. -/
def hashBang : Reader (List Node) := fun cursor =>
  match cursor.rest with
  | '#' :: '!' :: _ =>
    let line := cursor.rest.takeWhile (· != '\n')
    let behind := cursor.skip line.length
    some ([{ kind := .hashBangLine, role := .plain, start := cursor.position,
             stop := behind.position, text := line, children := [] }], behind)
  | _ => some ([], cursor)

/-- A whole script. -/
def program (fuel : Nat) : Reader Node := do
  let first ← hashBang
  let statements ← manyUntil (do require (← atEnd)) (readGoal fuel .statement) fuel
  node .program .origin (first ++ statements)

/-- Nesting no script of `n` characters exceeds: no rule passes through eight others without
reading a character. -/
def enoughFuel (n : Nat) : Nat := 8 * (n + 2)

/-- The tree of a script, if it is well formed. -/
def parse? (text : List Char) : Option Node :=
  (program (enoughFuel text.length) (Cursor.ofText text)).map (·.1)

end BlockAuthoring.Script
