import BlockAuthoring.Script.Grammar.Expression

/-!
# Statements

Declarations, control flow, imports and exports. A statement may start with an object literal,
an anonymous function or an anonymous class where no other reading fits.
-/

namespace BlockAuthoring.Script.Rules

open Reader

/-- A block: statements in braces. -/
def block (r : Rules) : Reader Node := do
  let start ← mark "\x7b"
  let statements ← manyUntil (discard (mark "\x7d")) (r.read .statement) r.bound
  node .statementBlock start statements

/-- An expression as a statement. -/
def expressionStatement (r : Rules) : Reader Node := do
  let start ← nextStart
  let e ← r.expressions
  semicolon
  node .expressionStatement start [e]

/-! ## Declarations -/

/-- What a declaration binds: a name or a pattern. -/
def declared (r : Rules) : Reader Node := do
  match ← upcoming true with
  | '\x7b' :: _ =>
    let n ← r.object
    n.toPattern?
  | '[' :: _ =>
    let n ← r.array
    n.toPattern?
  | _ => identifier .identifier

/-- A declarator from behind its name on: the name and an optional first value. -/
def declaratorOf (r : Rules) (allowIn : Bool) (name : Node) : Reader Node := do
  if ← accept "=" false then
    let value ← r.read (.assignment allowIn)
    node .variableDeclarator name.start [name.withRole .name, value.withRole .value]
  else node .variableDeclarator name.start [name.withRole .name]

/-- The declarators of a declaration whose first name was read, commas between them. -/
def declaratorsOf (r : Rules) (allowIn : Bool) (name : Node) : Reader (List Node) := do
  let first ← r.declaratorOf allowIn name
  let more ← many (do
    let _ ← mark "," false
    let name ← r.declared
    r.declaratorOf allowIn name) r.bound
  return first :: more

/-- The kind of a declaration by its first word. -/
def declarationKind (word : String) : Kind :=
  if word == "var" then .variableDeclaration else .lexicalDeclaration

/-- A declaration of variables or constants, from its first word on. -/
def declaration (r : Rules) (word : String) : Reader Node := do
  let start ← keyword word
  let first ← r.declared
  let names ← r.declaratorsOf true first
  semicolon
  node (declarationKind word) start names

/-- The text after `let` makes it a declaration: a name or a pattern follows. -/
def declaresAfterLet (text : List Char) : Bool :=
  match text with
  | '[' :: _ | '\x7b' :: _ => true
  | _ => match (Lexis.scanName text).map fun (w, _) => String.ofList w with
    | some w => w != "in" && w != "instanceof"
    | none => false

/-- A `let` that declares comes next. -/
def letDeclares : Reader Bool := fun cursor =>
  match (do let _ ← keyword "let"; upcoming true : Reader (List Char)) cursor with
  | some (text, _) => some (declaresAfterLet text, cursor)
  | none => some (false, cursor)

/-- A function with a name comes next. -/
def namedFunction : Reader Bool := comesNext do
  let _ ← acceptWord "async"
  let _ ← keyword "function"
  let _ ← accept "*" true
  identifier .identifier

/-- A class with a name comes next. -/
def namedClass : Reader Bool := comesNext do
  let _ ← keyword "class"
  identifier .identifier

/-- A function or class declaration, or the same without a name as an expression. -/
def functionOrClass (r : Rules) (start : Position) (front : List Node) : Reader Node := do
  if ← namedClass then r.classFrom .classDeclaration start front
  else
    require front.isEmpty
    if ← namedFunction then r.functionFrom true else failure

/-! ## Imports and exports -/

/-- The name of something a module exports: a word or a string. -/
def exportedName : Reader Node := do
  match ← upcoming true with
  | '"' :: _ | '\x27' :: _ => leaf .string Lexis.scanString
  | _ => leaf .identifier Lexis.scanName

/-- The name of a module and the attributes it is imported with. -/
def moduleSource (r : Rules) : Reader (List Node) := do
  let name ← leaf .string Lexis.scanString
  if (← word? true) == some "with" then
    let start ← keyword "with"
    let attributes ← r.object
    require (!attributes.needsPattern)
    return [name, ← node .importAttribute start [attributes]]
  else return [name]

/-- The module an import or an export reads from. -/
def fromClause (r : Rules) : Reader (List Node) := do
  let _ ← keyword "from"
  r.moduleSource

/-- One name of a list of imports. -/
def importSpecifier : Reader Node := do
  let start ← nextStart
  let name ← exportedName
  if (← word? true) == some "as" && !(← comesNext (do let _ ← keyword "as"; mark ",")) then
    let _ ← keyword "as"
    let bound ← identifier .identifier
    node .importSpecifier start [name.withRole .name, bound.withRole .renamed]
  else
    require (name.kind == .identifier && !Lexis.isReserved (String.ofList name.text))
    node .importSpecifier start [name.withRole .name]

/-- A list of imports in braces. -/
def namedImports (r : Rules) : Reader Node := do
  let start ← mark "\x7b"
  let specifiers ← r.items "\x7d" importSpecifier
  node .namedImports start specifiers

/-- An import of a whole module under one name. -/
def namespaceImport : Reader Node := do
  let start ← mark "*"
  let _ ← keyword "as"
  let name ← identifier .identifier
  node .namespaceImport start [name]

/-- Imports in braces or of a whole module. -/
def importList (r : Rules) : Reader Node := do
  if (← mark? true) == some "*" then namespaceImport else r.namedImports

/-- What an import statement brings in. -/
def importClause (r : Rules) : Reader Node := do
  let start ← nextStart
  match ← upcoming true with
  | '*' :: _ | '\x7b' :: _ => node .importClause start [← r.importList]
  | _ =>
    let name ← identifier .identifier
    if ← accept "," true then
      let list ← r.importList
      node .importClause start [name, list]
    else node .importClause start [name]

/-- An import statement. -/
def importStatement (r : Rules) : Reader Node := do
  let start ← keyword "import"
  let parts ← (do
    match ← upcoming true with
    | '"' :: _ | '\x27' :: _ => r.moduleSource
    | _ =>
      let clause ← r.importClause
      return clause :: (← r.fromClause))
  semicolon
  node .importStatement start parts

/-- One name of a list of exports. -/
def exportSpecifier : Reader Node := do
  let start ← nextStart
  let name ← exportedName
  if (← word? true) == some "as" then
    let _ ← keyword "as"
    let outer ← exportedName
    node .exportSpecifier start [name.withRole .name, outer.withRole .renamed]
  else node .exportSpecifier start [name.withRole .name]

/-- The end of an export that lists names. -/
def exportEnd (r : Rules) (start : Position) (front : Node) (needsSource : Bool) :
    Reader Node := do
  let source ← (do
    if needsSource || (← word? true) == some "from" then r.fromClause else return [])
  semicolon
  node .exportStatement start (front :: source)

/-- What follows `export default`. -/
def exportDefault (r : Rules) (start : Position) (front : List Node) : Reader Node := do
  let _ ← keyword "default"
  let inner ← nextStart
  let own ← r.decorators
  let declares ← (do
    let isClass ← namedClass
    let isFunction ← namedFunction
    return isClass || (isFunction && own.isEmpty))
  if declares then
    let d ← r.functionOrClass inner own
    node .exportDefault start (front ++ [d.withRole .declaration])
  else
    let value ← (do
      if own.isEmpty then r.read (.assignment true)
      else r.classFrom .classExpression inner own)
    semicolon
    node .exportDefault start (front ++ [value.withRole .value])

/-- A declaration behind `export`. -/
def exportedDeclaration (r : Rules) : Reader Node := do
  match ← word? true with
  | some "var" => r.declaration "var"
  | some "let" => r.declaration "let"
  | some "const" => r.declaration "const"
  | _ =>
    let start ← nextStart
    let own ← r.decorators
    r.functionOrClass start own

/-- An export statement, from its `export` word on. -/
def exportStatement (r : Rules) (start : Position) (front : List Node) : Reader Node := do
  let _ ← keyword "export"
  if (← word? true) == some "default" then r.exportDefault start front
  else
    match ← upcoming true with
    | '*' :: _ =>
      require front.isEmpty
      let s ← mark "*"
      if (← word? true) == some "as" then
        let _ ← keyword "as"
        let name ← exportedName
        r.exportEnd start (← node .namespaceExport s [name]) true
      else
        let source ← r.fromClause
        semicolon
        node .exportStatement start source
    | '\x7b' :: _ =>
      require front.isEmpty
      let s ← mark "\x7b"
      let specifiers ← r.items "\x7d" exportSpecifier
      r.exportEnd start (← node .exportClause s specifiers) false
    | _ =>
      let d ← r.exportedDeclaration
      node .exportStatement start (front ++ [d.withRole .declaration])

/-! ## Control flow -/

/-- A condition and the statement under it. -/
def guarded (r : Rules) (kind : Kind) (word : String) : Reader Node := do
  let start ← keyword word
  let condition ← r.parenthesized
  let body ← r.read .statement
  node kind start [condition, body.withRole .body]

/-- An `if` statement with its `else`. -/
def ifStatement (r : Rules) : Reader Node := do
  let start ← keyword "if"
  let condition ← r.parenthesized
  let body ← r.read .statement
  if (← word? true) == some "else" then
    let s ← keyword "else"
    let other ← r.read .statement
    node .ifStatement start [condition, body.withRole .body, ← node .elseClause s [other]]
  else node .ifStatement start [condition, body.withRole .body]

/-- A `do` statement; no semicolon is needed behind it. -/
def doStatement (r : Rules) : Reader Node := do
  let start ← keyword "do"
  let body ← r.read .statement
  let _ ← keyword "while"
  let condition ← r.parenthesized
  let _ ← accept ";" false
  node .doStatement start [body.withRole .body, condition]

/-- The rest of a `for` head that walks over something, from `in` or `of` on. -/
def forInRest (r : Rules) (start : Position) (left : Node) : Reader Node := do
  let _ ← either (keyword "of") (keyword "in")
  let right ← r.expressions
  let _ ← mark ")" false
  let body ← r.read .statement
  node .forInStatement start [left.withRole .left, right.withRole .right, body.withRole .body]

/-- The rest of a counting `for` head, from its condition on. -/
def forRest (r : Rules) (start : Position) (first : List Node) : Reader Node := do
  let condition ← (do
    if ← accept ";" true then return []
    let e ← r.expressions
    let _ ← mark ";" false
    return [e])
  let step ← (do
    if (← mark? true) == some ")" then return [] else return [← r.expressions])
  let _ ← mark ")" false
  let body ← r.read .statement
  node .forStatement start (first ++ condition ++ step ++ [body.withRole .body])

/-- `in` or `of` comes next. -/
def walksNext : Reader Bool := do
  let w ← word? false
  return w == some "of" || w == some "in"

/-- A `for` statement whose head declares names. -/
def forDeclaration (r : Rules) (start : Position) (word : String) : Reader Node := do
  let s ← keyword word
  let name ← r.declared
  if ← walksNext then r.forInRest start name
  else
    let names ← r.declaratorsOf false name
    if ← (do if word == "var" && names.length == 1 then walksNext else pure false) then
      r.forInRest start (← node .variableDeclaration s names)
    else
      let _ ← mark ";" false
      r.forRest start [← node (declarationKind word) s names]

/-- A `for` statement whose head starts with an expression. -/
def forExpression (r : Rules) (start : Position) : Reader Node := do
  let n ← r.read (.cover false)
  if ← walksNext then
    let left ← n.toTarget?
    r.forInRest start left
  else
    require (!n.needsPattern)
    let more ← many (do let _ ← mark "," false; r.read (.assignment false)) r.bound
    let first ← (do
      if more.isEmpty then return n else node .sequenceExpression n.start (n :: more))
    let _ ← mark ";" false
    r.forRest start [first]

/-- A `for` statement. -/
def forStatement (r : Rules) : Reader Node := do
  let start ← keyword "for"
  let _ ← acceptWord "await"
  let _ ← mark "("
  if ← accept ";" true then r.forRest start []
  else
    match ← word? true with
    | some "var" => r.forDeclaration start "var"
    | some "const" => r.forDeclaration start "const"
    | some "let" =>
      if ← letDeclares then r.forDeclaration start "let" else r.forExpression start
    | _ => r.forExpression start

/-- The body of a `switch` case: statements up to the next case or the closing brace. -/
def caseBody (r : Rules) : Reader (List Node) :=
  manyUntil
    (do
      let w ← word? true
      let m ← mark? true
      require (w == some "case" || w == some "default" || m == some "\x7d"))
    (r.read .statement) r.bound

/-- A case of a `switch`. -/
def switchCase (r : Rules) : Reader Node := do
  let start ← nextStart
  if ← acceptWord "default" then
    let _ ← mark ":"
    let body ← r.caseBody
    node .switchDefault start body
  else
    let _ ← keyword "case"
    let value ← r.expressions
    let _ ← mark ":" false
    let body ← r.caseBody
    node .switchCase start (value :: body)

/-- A `switch` statement. -/
def switchStatement (r : Rules) : Reader Node := do
  let start ← keyword "switch"
  let value ← r.parenthesized
  let s ← mark "\x7b"
  let cases ← manyUntil (discard (mark "\x7d")) r.switchCase r.bound
  let body ← node .switchBody s cases
  node .switchStatement start [value, body.withRole .body]

/-- A `try` statement; neither handler is needed. -/
def tryStatement (r : Rules) : Reader Node := do
  let start ← keyword "try"
  let body ← r.read .block
  let handler ← (do
    if (← word? true) == some "catch" then
      let s ← keyword "catch"
      let parameter ← (do
        if ← accept "(" true then
          let p ← r.declared
          let _ ← mark ")"
          return [p]
        else return [])
      let inner ← r.read .block
      return [← node .catchClause s (parameter ++ [inner.withRole .body])]
    else return [])
  let last ← (do
    if (← word? true) == some "finally" then
      let s ← keyword "finally"
      let inner ← r.read .block
      return [← node .finallyClause s [inner.withRole .body]]
    else return [])
  node .tryStatement start (body.withRole .body :: handler ++ last)

/-- A statement that is a word and maybe an expression on the same line. -/
def wordStatement (r : Rules) (kind : Kind) (word : String) : Reader Node := do
  let start ← keyword word
  let inner ← (do
    if (← mark? false) == some ";" || (← mayEnd) then return [] else return [← r.expressions])
  semicolon
  node kind start inner

/-- A jump, maybe to a label on the same line. -/
def jumpStatement (kind : Kind) (word : String) : Reader Node := do
  let start ← keyword word
  let label ← (do
    if (← mark? false) == some ";" || (← mayEnd) then return []
    else return [← identifier .statementLabel])
  semicolon
  node kind start label

/-- A label and its colon come next. -/
def labelNext : Reader Bool := comesNext do
  let _ ← identifier .statementLabel
  mark ":" false

/-- A labeled statement. -/
def labeledStatement (r : Rules) : Reader Node := do
  let label ← identifier .statementLabel
  let _ ← mark ":" false
  let body ← r.read .statement
  node .labeledStatement label.start [label, body.withRole .body]

/-- Characters that can only carry an expression on: no statement starts with them. -/
def onlyInExpression (text : List Char) : Bool :=
  match text with
  | c :: _ => ".=?,*%&|^):]".toList.contains c
  | [] => false

/-- A block, or an object literal as a statement where no block fits. -/
def blockOrObject (r : Rules) : Reader Node :=
  either
    (do
      let b ← r.read .block
      require (!onlyInExpression (← upcoming true))
      return b)
    r.expressionStatement

/-- A labeled statement or an expression. -/
def nameLedStatement (r : Rules) : Reader Node := do
  if ← labelNext then r.labeledStatement else r.expressionStatement

/-- A statement whose first token is a word. -/
def wordLedStatement (r : Rules) (start : Position) (word : String) : Reader Node := do
  match word with
  | "var" => r.declaration "var"
  | "const" => r.declaration "const"
  | "let" => if ← letDeclares then r.declaration "let" else r.nameLedStatement
  | "function" | "async" =>
    if ← namedFunction then r.functionFrom true else r.nameLedStatement
  | "class" =>
    if ← namedClass then r.classFrom .classDeclaration start [] else r.nameLedStatement
  | "import" =>
    match ← ahead (do let _ ← keyword "import"; upcoming true) with
    | '(' :: _ | '.' :: _ => r.expressionStatement
    | _ => r.importStatement
  | "export" => r.exportStatement start []
  | "if" => r.ifStatement
  | "for" => r.forStatement
  | "while" => r.guarded .whileStatement "while"
  | "with" => r.guarded .withStatement "with"
  | "do" => r.doStatement
  | "switch" => r.switchStatement
  | "try" => r.tryStatement
  | "return" => r.wordStatement .returnStatement "return"
  | "throw" =>
    let s ← keyword "throw"
    let e ← r.expressions
    semicolon
    node .throwStatement s [e]
  | "break" => jumpStatement .breakStatement "break"
  | "continue" => jumpStatement .continueStatement "continue"
  | "debugger" =>
    let s ← keyword "debugger"
    semicolon
    node .debuggerStatement s []
  | _ => r.nameLedStatement

/-- A class or an export behind decorators. -/
def decoratedStatement (r : Rules) : Reader Node := do
  let start ← nextStart
  let front ← r.decorators
  if (← word? true) == some "export" then r.exportStatement start front
  else if ← namedClass then r.classFrom .classDeclaration start front
  else
    let value ← r.classFrom .classExpression start front
    semicolon
    node .expressionStatement start [value]

/-- A statement. -/
def statement (r : Rules) : Reader Node := do
  let start ← nextStart
  match ← upcoming true with
  | '\x7b' :: _ => r.blockOrObject
  | ';' :: _ =>
    let _ ← mark ";"
    node .emptyStatement start []
  | '@' :: _ => r.decoratedStatement
  | _ =>
    match ← word? true with
    | some w => r.wordLedStatement start w
    | none => r.expressionStatement

end BlockAuthoring.Script.Rules
