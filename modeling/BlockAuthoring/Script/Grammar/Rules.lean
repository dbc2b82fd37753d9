import BlockAuthoring.Script.Cursor
import BlockAuthoring.Script.Target

/-!
# Grammar rules

The grammar is a set of rules over readers. A rule that needs another construct inside its own
asks for it through `Rules.read`, so that each rule is a plain definition; the recursion is tied
in one place, in `BlockAuthoring.Script.Grammar`.
-/

namespace BlockAuthoring.Script

/-- The constructs through which rules reach each other again. -/
inductive Goal where
  | statement
  | block
  /-- An assignment expression; without `allowIn`, `in` is no operator in it. -/
  | assignment (allowIn : Bool)
  /-- As `assignment`, but it may still turn out to be a pattern. -/
  | cover (allowIn : Bool)
  | unary
  /-- What `new` is applied to. -/
  | constructed
  | markup
  deriving DecidableEq, Repr

/-- What a rule is given: how to read the constructs inside it, and a bound on the length of
every list. -/
structure Rules where
  bound : Nat
  read : Goal → Reader Node

namespace Rules

open Reader

/-- An operation over finished operands: none of them may still need to be a pattern. -/
def operation (kind : Kind) (start : Position) (operands : List Node) : Reader Node := do
  require (operands.all (!·.needsPattern))
  node kind start operands

/-- A name that is not reserved, as an identifier. -/
def identifier (kind : Kind) : Reader Node := do
  let n ← leaf kind Lexis.scanName
  require (!Lexis.isReserved (String.ofList n.text))
  return n

/-- `item` and then a comma, or `close` still to come. -/
def item (close : String) (item : Reader Node) : Reader Node := do
  let n ← item
  if (← mark? false) == some close then return n
  let _ ← mark "," false
  return n

/-- The items up to and with `close`, commas between them and maybe one behind the last. -/
def items (r : Rules) (close : String) (one : Reader Node) : Reader (List Node) :=
  manyUntil (discard (mark close)) (item close one) r.bound

/-- As `items`, where an item may also be left out. -/
def sparseItems (r : Rules) (close : String) (one : Reader Node) : Reader (List Node) := do
  let element : Reader (Option Node) := do
    if ← accept "," true then return none
    return some (← item close one)
  return (← manyUntil (discard (mark close)) element r.bound).filterMap id

/-- One or more assignment expressions with commas between them. -/
def expressions (r : Rules) : Reader Node := do
  let first ← r.read (.assignment true)
  let more ← many (do let _ ← mark "," false; r.read (.assignment true)) r.bound
  if more.isEmpty then return first
  node .sequenceExpression first.start (first :: more)

/-- An expression in parentheses. -/
def parenthesized (r : Rules) : Reader Node := do
  let start ← mark "("
  let inner ← r.expressions
  let _ ← mark ")" false
  node .parenthesizedExpression start [inner]

/-! ## Names of members -/

/-- The text starts with something that can name a member. -/
def startsMemberName : List Char → Bool
  | '.' :: c :: _ => c.isDigit
  | c :: _ => Lexis.isNameChar c || "\\\"'[#".toList.contains c
  | [] => false

/-- A private name. -/
def privateName : Reader Node :=
  leaf .privateName fun
    | '#' :: rest => (Lexis.scanName rest).map fun (name, behind) => ('#' :: name, behind)
    | _ => none

/-- The name of a member: a word, a private name, a string, a number, or an expression in
brackets. -/
def memberName (r : Rules) : Reader Node := do
  match ← upcoming true with
  | '[' :: _ =>
    let start ← mark "["
    let inner ← r.read (.assignment true)
    let _ ← mark "]" false
    node .computedPropertyName start [inner]
  | '#' :: _ => privateName
  | '"' :: _ | '\'' :: _ => leaf .string Lexis.scanString
  | '.' :: _ => leaf .number Lexis.scanNumber
  | c :: _ =>
    if c.isDigit then leaf .number Lexis.scanNumber else leaf .propertyName Lexis.scanName
  | [] => failure

/-- Reads `word` if a member name follows it, so that it qualifies the member and is not its
name. Where `onOneLine` is set, the name has to follow on the same line. -/
def modifier (word : String) (onOneLine : Bool) (follows : List Char → Bool) : Reader Bool :=
  either
    (do
      let _ ← keyword word
      let g ← gap true
      require (follows g.next.rest && !(onOneLine && g.newline))
      return true)
    (pure false)

/-! ## Parameters -/

/-- A spread element. What is spread may still be a pattern. -/
def spread (r : Rules) : Reader Node := do
  let start ← mark "..."
  let inner ← r.read (.cover true)
  node .spreadElement start [inner]

/-- A spread element, or an expression that may still be a pattern. -/
def spreadOrCover (r : Rules) : Reader Node := do
  if (← mark? true) == some "..." then r.spread else r.read (.cover true)

/-- The parameters of a function, in parentheses. -/
def parameters (r : Rules) : Reader Node := do
  let start ← mark "("
  let entries ← r.items ")" r.spreadOrCover
  let ps ← (entries.mapM Node.toElement? : Option (List Node))
  node .formalParameters start ps

/-- The parameters and the body of a function. -/
def signatureAndBody (r : Rules) : Reader (List Node) := do
  let ps ← r.parameters
  let body ← r.read .block
  return [ps, body.withRole .body]

end Rules

end BlockAuthoring.Script
