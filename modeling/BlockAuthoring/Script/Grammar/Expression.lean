import BlockAuthoring.Script.Grammar.Rules
import BlockAuthoring.Script.Grammar.Markup

/-!
# Expressions

Precedence between binary operators decides nothing about whether a script is well formed, so a
chain of operands is one node. Arrow functions are operands; what stands between their
parentheses is read as expressions and turned into patterns once the arrow is seen.
-/

namespace BlockAuthoring.Script.Rules

open Reader

/-! ## Functions and classes -/

/-- The kind of a function, by whether it is declared and has a star. -/
def functionKind : (declares star : Bool) → Kind
  | true, false => .functionDeclaration
  | true, true => .generatorFunctionDeclaration
  | false, false => .functionExpression
  | false, true => .generatorFunction

/-- A function from its `async` or `function` word on: anonymous or named, plain or generator. -/
def functionFrom (r : Rules) (declares : Bool) : Reader Node := do
  let start ← nextStart
  let _ ← acceptWord "async"
  let _ ← keyword "function"
  let star ← accept "*" true
  let name ← (do
    if (← mark? true) == some "(" && !declares then return []
    return [(← identifier .identifier).withRole .name])
  let rest ← r.signatureAndBody
  node (functionKind declares star) start (name ++ rest)

/-- A decorator: `@` and a dotted name, maybe called. -/
def decorator (r : Rules) : Reader Node := do
  let start ← mark "@"
  let name ← identifier .identifier
  let path ← many (do let _ ← mark "." false; leaf .propertyName Lexis.scanName) r.bound
  if (← mark? false) == some "(" then
    let open' ← mark "("
    let args ← r.sparseItems ")" (do
      if (← mark? true) == some "..." then
        let s ← mark "..."
        node .spreadElement s [← r.read (.assignment true)]
      else r.read (.assignment true))
    node .decorator start (name :: path ++ [← node .arguments open' args])
  else node .decorator start (name :: path)

/-- The decorators in front of a class or a member. -/
def decorators (r : Rules) : Reader (List Node) :=
  manyUntil (do require ((← mark? true) != some "@")) r.decorator r.bound

/-- A method from its parameters on. -/
def methodFrom (r : Rules) (start : Position) (front : List Node) (name : Node) :
    Reader Node := do
  let rest ← r.signatureAndBody
  node .methodDefinition start (front ++ name.withRole .name :: rest)

/-- The words and the star in front of a method's name; whether there were any. -/
def methodModifiers (onOneLine : Bool) : Reader Bool := do
  let startsOrStar := fun text => startsMemberName text || text.head? == some '*'
  let async ← modifier "async" onOneLine startsOrStar
  let star ← accept "*" true
  if star then return true
  let getter ← modifier "get" onOneLine startsMemberName
  let setter ← (do if getter then pure false else modifier "set" onOneLine startsMemberName)
  return async || getter || setter

/-- A static block of a class. -/
def staticBlock (r : Rules) : Reader Node := do
  let start ← keyword "static"
  let body ← r.read .block
  node .classStaticBlock start [body.withRole .body]

/-- A method or a field of a class. -/
def classMember (r : Rules) : Reader Node := do
  let start ← nextStart
  let front ← r.decorators
  let _ ← modifier "static" false fun text =>
    startsMemberName text || text.head? == some '*'
  let qualified ← methodModifiers true
  let name ← r.memberName
  if (← mark? true) == some "(" then r.methodFrom start front name
  else
    require (!qualified)
    if ← accept "=" false then
      let value ← r.read (.assignment true)
      let field ← node .fieldDefinition start
        (front ++ [name.withRole .name, value.withRole .value])
      semicolon
      return field
    else
      let field ← node .fieldDefinition start (front ++ [name.withRole .name])
      semicolon
      return field

/-- The body of a class. -/
def classBody (r : Rules) : Reader Node := do
  let start ← mark "\x7b"
  let members ← manyUntil (discard (mark "\x7d"))
    (do
      if ← accept ";" true then return none
      return some (← either r.staticBlock r.classMember))
    r.bound
  node .classBody start (members.filterMap id)

/-- A class from its decorators or its `class` word on, under the given kind. -/
def classFrom (r : Rules) (kind : Kind) (start : Position) (front : List Node) : Reader Node := do
  let _ ← keyword "class"
  let name ← (do
    match ← word? true with
    | some w =>
      if w == "extends" && kind == .classExpression then return []
      return [(← identifier .identifier).withRole .name]
    | none => require (kind == .classExpression); return [])
  let heritage ← (do
    if (← word? true) == some "extends" then
      let s ← keyword "extends"
      let base ← r.read .unary
      require (!base.needsPattern)
      return [← node .classHeritage s [base]]
    else return [])
  let body ← r.classBody
  node kind start (front ++ name ++ heritage ++ [body.withRole .body])

/-- A class as an expression. -/
def classExpression (r : Rules) : Reader Node := do
  let start ← nextStart
  let front ← r.decorators
  r.classFrom .classExpression start front

/-! ## Literals -/

/-- The substitutions of a template literal, from behind its opening quote on. -/
def templateParts (r : Rules) : Nat → Reader (List Node)
  | 0 => failure
  | bound + 1 => do
    let text := (← get).rest
    let (chars, stop, _) ← Lexis.scanTemplateChars (text.length + 1) text
    match stop with
    | .quote => rawSkip chars.length; return []
    | .substitution =>
      rawSkip (chars.length - 2)
      let start ← here
      rawSkip 2
      let inner ← r.expressions
      let _ ← mark "\x7d" false
      let part ← node .templateSubstitution start [inner]
      return part :: (← templateParts r bound)

/-- A template literal. -/
def template (r : Rules) : Reader Node := do
  let g ← gap true
  require (g.next.rest.head? == some '\x60')
  moveTo (g.next.skip 1)
  let parts ← r.templateParts r.bound
  node .templateString g.next.position parts

/-- An array literal, with holes. -/
def array (r : Rules) : Reader Node := do
  let start ← mark "["
  let elements ← r.sparseItems "]" r.spreadOrCover
  node .array start elements

/-- A member of an object literal: something under a name, or what is spread into it. -/
def namedMember (r : Rules) : Reader Node := do
  let start ← nextStart
  if (← mark? true) == some "..." then
    r.spread
  else
    let front ← r.decorators
    let qualified ← methodModifiers false
    let name ← r.memberName
    if qualified || !front.isEmpty || (← mark? true) == some "(" then
      r.methodFrom start front name
    else if ← accept ":" false then
      let value ← r.read (.cover true)
      node .pair start [name.withRole .key, value.withRole .value]
    else
      require (name.kind == .propertyName && !Lexis.isReserved (String.ofList name.text))
      if ← accept "=" false then
        let right ← r.read (.assignment true)
        let left := (name.withKind .shorthandPattern).withRole .left
        node .objectAssignmentPattern start [left, right.withRole .right]
      else return name.withKind .shorthandProperty

/-- A pattern with a default value where a member of an object is expected. No name tells which
member is taken apart. -/
def patternMember (r : Rules) : Reader Node := do
  let n ← r.read (.cover true)
  require (n.kind == .assignmentExpression && (n.child? .left).any fun left =>
    left.kind == .objectPattern || left.kind == .arrayPattern)
  return n.withKind .objectAssignmentPattern

/-- A member of an object literal, or of the pattern that it stands for. -/
def objectMember (r : Rules) : Reader Node := either r.namedMember r.patternMember

/-- An object literal; members may be left out between commas. -/
def object (r : Rules) : Reader Node := do
  let start ← mark "\x7b"
  let members ← r.sparseItems "\x7d" r.objectMember
  node .object start members

/-! ## Arrow functions -/

/-- An arrow function from its arrow on. -/
def arrowFrom (r : Rules) (start : Position) (ps : Node) : Reader Node := do
  let _ ← mark "=>" false
  let body ← (do
    if (← upcoming true).head? == some '\x7b' then r.read .block
    else r.read (.assignment true))
  node .arrowFunction start [ps, body.withRole .body]

/-- One entry of a list that is expressions or parameters, and whether a comma followed. -/
def coverEntry (r : Rules) : Reader (Node × Bool) := do
  let n ← r.spreadOrCover
  if (← mark? false) == some ")" then return (n, false)
  let _ ← mark "," false
  return (n, true)

/-- Parentheses around an expression, or the parameters of an arrow function. -/
def parenthesizedOrArrow (r : Rules) : Reader Node := do
  let start ← mark "("
  let entries ← manyUntil (discard (mark ")")) r.coverEntry r.bound
  let inner := entries.map (·.1)
  if (← mark? false) == some "=>" then
    let ps ← (inner.mapM Node.toElement? : Option (List Node))
    r.arrowFrom start (← node .formalParameters start ps)
  else
    let trailing := entries.getLast?.elim true (·.2)
    require (!trailing && inner.all fun n => n.kind != .spreadElement && !n.needsPattern)
    match inner with
    | [n] => node .parenthesizedExpression start [n]
    | ns =>
      let first := ns.head?.elim start (·.start)
      node .parenthesizedExpression start [← node .sequenceExpression first ns]

/-- A name, or an arrow function of which it is the only parameter. -/
def nameOrArrow (r : Rules) : Reader Node := do
  let n ← identifier .identifier
  if (← mark? false) == some "=>" then r.arrowFrom n.start n
  else return if n.text == "undefined".toList then n.withKind .undefinedValue else n

/-- The word `async`: in front of a function or an arrow function, or a plain name. -/
def asyncOperand (r : Rules) : Reader Node := do
  let start ← nextStart
  let afterAsync ← ahead (do let _ ← keyword "async"; word? true)
  match afterAsync with
  | some "function" => r.functionFrom false
  | some w =>
    let isArrow ← comesNext (do
      let _ ← keyword "async"
      let _ ← identifier .identifier
      mark "=>" false)
    if isArrow && !Lexis.isReserved w then
      let _ ← keyword "async"
      let p ← identifier .identifier
      r.arrowFrom start p
    else r.nameOrArrow
  | none => r.nameOrArrow

/-! ## Operands -/

/-- `new`: the `new.target` property, or the creation of an object. -/
def newOperand (r : Rules) : Reader Node := do
  let start ← keyword "new"
  if ← accept "." true then
    let _ ← keyword "target"
    node .metaProperty start []
  else
    let made ← r.read .constructed
    require (!made.needsPattern)
    if (← mark? false) == some "(" then
      let open' ← mark "("
      let args ← r.sparseItems ")" r.spreadOrCover
      require (args.all (!·.needsPattern))
      node .newExpression start [made, ← node .arguments open' args]
    else node .newExpression start [made]

/-- `import` as an operand: `import.meta`, or the start of a dynamic import. -/
def importOperand : Reader Node := do
  let start ← keyword "import"
  if (← mark? false) == some "." then
    let _ ← mark "." false
    let _ ← keyword "meta"
    node .metaProperty start []
  else
    require ((← mark? false) == some "(")
    node .importKeyword start []

/-- What an expression is built from. -/
def operand (r : Rules) : Reader Node := do
  match ← upcoming true with
  | '(' :: _ => r.parenthesizedOrArrow
  | '[' :: _ => r.array
  | '\x7b' :: _ => r.object
  | '\x60' :: _ => r.template
  | '/' :: _ => leaf .regex Lexis.scanRegex
  | '"' :: _ | '\x27' :: _ => leaf .string Lexis.scanString
  | '<' :: _ => r.read .markup
  | '@' :: _ => r.classExpression
  | '.' :: _ => leaf .number Lexis.scanNumber
  | c :: text =>
    if c.isDigit then leaf .number Lexis.scanNumber
    else match (Lexis.scanName (c :: text)).map fun (w, _) => String.ofList w with
      | some "function" => r.functionFrom false
      | some "class" => r.classExpression
      | some "new" => r.newOperand
      | some "import" => importOperand
      | some "this" => leaf .this Lexis.scanName
      | some "super" => leaf .super Lexis.scanName
      | some "true" | some "false" => leaf .booleanLiteral Lexis.scanName
      | some "null" => leaf .nullLiteral Lexis.scanName
      | some "async" => r.asyncOperand
      | some _ => r.nameOrArrow
      | none => failure
  | [] => failure

/-- The name behind a dot. -/
def memberAfterDot : Reader Node := do
  match ← upcoming true with
  | '#' :: _ => privateName
  | _ => leaf .propertyName Lexis.scanName

/-- The arguments of a call. -/
def argumentList (r : Rules) : Reader (Position × List Node) := do
  let start ← mark "("
  let args ← r.sparseItems ")" r.spreadOrCover
  return (start, args)

/-- The members, calls and templates that follow `base`; without `calls`, only members and
templates. -/
def suffixes (r : Rules) (calls : Bool) : Nat → Node → Reader Node
  | 0, base => pure base
  | bound + 1, base => do
    if (← upcoming false).head? == some '\x60' then
      let t ← r.template
      suffixes r calls bound (← operation .callExpression base.start [base, t])
    else match ← mark? false with
      | some "." =>
        let _ ← mark "." false
        let name ← memberAfterDot
        suffixes r calls bound (← operation .memberExpression base.start [base, name])
      | some "[" =>
        let _ ← mark "[" false
        let index ← r.expressions
        let _ ← mark "]" false
        suffixes r calls bound (← operation .subscriptExpression base.start [base, index])
      | some "?." =>
        let _ ← mark "?." false
        match ← mark? true with
        | some "[" =>
          let _ ← mark "["
          let index ← r.expressions
          let _ ← mark "]" false
          suffixes r calls bound (← operation .subscriptExpression base.start [base, index])
        | some "(" =>
          let (start, args) ← r.argumentList
          let list ← operation .arguments start args
          suffixes r calls bound (← operation .callExpression base.start [base, list])
        | _ =>
          let name ← memberAfterDot
          suffixes r calls bound (← operation .memberExpression base.start [base, name])
      | some "(" =>
        if !calls then return base
        let isArrow ← (do
          if base.kind == .identifier && base.text == "async".toList then
            comesNext (do let _ ← r.parameters; mark "=>" false)
          else pure false)
        if isArrow then
          let ps ← r.parameters
          suffixes r calls bound (← r.arrowFrom base.start ps)
        else
          let (start, args) ← r.argumentList
          let list ← operation .arguments start args
          suffixes r calls bound (← operation .callExpression base.start [base, list])
      | _ => return base

/-- An operand with everything that follows it. -/
def suffixed (r : Rules) : Reader Node := do
  let base ← r.operand
  r.suffixes true r.bound base

/-- What `new` is applied to: an operand and its members, but no call. -/
def constructed (r : Rules) : Reader Node := do
  let base ← r.operand
  r.suffixes false r.bound base

/-! ## Operators -/

/-- Increments behind an operand, on its line. -/
def postfixUpdates : Nat → Node → Reader Node
  | 0, n => pure n
  | bound + 1, n => do
    let g ← gap false
    if !g.newline then
      match ← mark? false with
      | some "++" =>
        let _ ← mark "++" false
        postfixUpdates bound (← operation .updateExpression n.start [n])
      | some "--" =>
        let _ ← mark "--" false
        postfixUpdates bound (← operation .updateExpression n.start [n])
      | _ => return n
    else return n

/-- The text certainly starts an operand, so that the word in front of it is an operator. -/
def startsOperand (text : List Char) : Bool :=
  match text with
  | [] => false
  | '.' :: c :: _ => c.isDigit
  | c :: _ =>
    match (Lexis.scanName text).map fun (w, _) => String.ofList w with
    | some w =>
      !Lexis.isReserved w ||
        ["function", "class", "new", "this", "super", "true", "false", "null", "import",
         "typeof", "void", "delete"].contains w
    | none => c.isDigit || "\"\x27([\x7b!~\x60@".toList.contains c

/-- The text may start an operand or carry an operation on. -/
def mayStartOperand (text : List Char) : Bool :=
  startsOperand text || (match text with
    | c :: _ => "+-/<".toList.contains c
    | [] => false)

/-- A word that is an operator if an operand follows, and otherwise a name. -/
def wordOperator (asOperator asName : Reader Node) (word : String) : Reader Node := do
  let text ← ahead (do let _ ← keyword word; upcoming true)
  if startsOperand text then asOperator
  else if mayStartOperand text then either asOperator asName
  else asName

/-- `await` with its operand. -/
def awaitOperation (r : Rules) : Reader Node := do
  let start ← keyword "await"
  let inner ← r.read .unary
  operation .awaitExpression start [inner]

/-- An operand behind its prefix operators, with increments behind it. -/
def unary (r : Rules) : Reader Node := do
  let plain : Reader Node := do
    let n ← r.suffixed
    postfixUpdates r.bound n
  let prefixed (kind : Kind) (start : Position) : Reader Node := do
    let inner ← r.read .unary
    operation kind start [inner]
  match ← mark? true with
  | some "!" => prefixed .unaryExpression (← mark "!")
  | some "~" => prefixed .unaryExpression (← mark "~")
  | some "+" => prefixed .unaryExpression (← mark "+")
  | some "-" => prefixed .unaryExpression (← mark "-")
  | some "++" => prefixed .updateExpression (← mark "++")
  | some "--" => prefixed .updateExpression (← mark "--")
  | _ =>
    match ← word? true with
    | some "typeof" => prefixed .unaryExpression (← keyword "typeof")
    | some "void" => prefixed .unaryExpression (← keyword "void")
    | some "delete" => prefixed .unaryExpression (← keyword "delete")
    | some "await" => wordOperator r.awaitOperation plain "await"
    | _ => plain

/-- Binary operators that are marks. -/
def binaryMarks : List String :=
  ["&&", "||", "??", ">>", ">>>", "<<", "&", "^", "|", "+", "-", "*", "/", "%", "**",
   "<", "<=", "==", "===", "!=", "!==", ">=", ">"]

/-- Reads a binary operator if one comes next. -/
def acceptBinaryOperator (allowIn : Bool) : Reader Bool := do
  match ← mark? false with
  | some m =>
    if binaryMarks.contains m then let _ ← mark m false; return true else return false
  | none =>
    match ← word? false with
    | some "instanceof" => let _ ← keyword "instanceof"; return true
    | some "in" => if allowIn then let _ ← keyword "in"; return true else return false
    | _ => return false

/-- An operand of a binary operator: a private name may stand in front of `in`. -/
def binaryOperand (r : Rules) : Reader Node := do
  match ← upcoming true with
  | '#' :: _ =>
    let n ← privateName
    require ((← word? false) == some "in")
    return n
  | _ => r.read .unary

/-- The operators and operands that follow a first operand. -/
def binaryRest (r : Rules) (allowIn : Bool) : Nat → Reader (List Node)
  | 0 => pure []
  | bound + 1 => do
    if ← acceptBinaryOperator allowIn then
      let n ← r.binaryOperand
      return n :: (← binaryRest r allowIn bound)
    else return []

/-- Operands joined by binary operators. -/
def binary (r : Rules) (allowIn : Bool) : Reader Node := do
  let first ← r.binaryOperand
  let more ← r.binaryRest allowIn r.bound
  if more.isEmpty then return first
  operation .binaryExpression first.start (first :: more)

/-- A conditional expression, or what may be its condition. -/
def ternary (r : Rules) (allowIn : Bool) : Reader Node := do
  let condition ← r.binary allowIn
  if (← mark? false) == some "?" then
    let _ ← mark "?" false
    let first ← r.read (.assignment true)
    let _ ← mark ":" false
    let second ← r.read (.assignment allowIn)
    operation .ternaryExpression condition.start [condition, first, second]
  else return condition

/-- Assignment operators that combine with another operation. -/
def augmentedMarks : List String :=
  ["+=", "-=", "*=", "/=", "%=", "^=", "&=", "|=", ">>=", ">>>=", "<<=", "**=", "&&=", "||=",
   "??="]

/-- `yield` with its operand, if it has one. -/
def yieldOperation (r : Rules) (allowIn : Bool) : Reader Node := do
  let start ← keyword "yield"
  let _ ← accept "*" false
  let inner ← r.read (.assignment allowIn)
  operation .yieldExpression start [inner]

/-- An assignment, or anything that binds tighter. It may still need to be a pattern. -/
def cover (r : Rules) (allowIn : Bool) : Reader Node := do
  let plain : Reader Node := do
    let left ← r.ternary allowIn
    match ← mark? false with
    | some "=" =>
      let target ← left.toTarget?
      let _ ← mark "=" false
      let right ← r.read (.assignment allowIn)
      node .assignmentExpression left.start [target.withRole .left, right.withRole .right]
    | some m =>
      if augmentedMarks.contains m then
        require left.isPlace
        let _ ← mark m false
        let right ← r.read (.assignment allowIn)
        node .augmentedAssignment left.start [left.withRole .left, right.withRole .right]
      else return left
    | none => return left
  match ← word? true with
  | some "yield" =>
    if ← comesNext (do let _ ← keyword "yield"; mark "*" false) then
      either (r.yieldOperation allowIn) plain
    else wordOperator (r.yieldOperation allowIn) plain "yield"
  | _ => plain

/-- An assignment expression that is settled to be no pattern. -/
def assignment (r : Rules) (allowIn : Bool) : Reader Node := do
  let n ← r.read (.cover allowIn)
  require (!n.needsPattern)
  return n

end BlockAuthoring.Script.Rules
