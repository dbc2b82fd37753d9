/-!
# Syntax trees

The concrete syntax tree of a script: named nodes in source order, each with the place where it
starts and stops. Leaves carry the source text they cover. Comments and punctuation leave no
node; a `default` export has a kind of its own.
-/

namespace BlockAuthoring.Script

/-- A place in a source: bytes before it, and its line and byte column, both from one. -/
structure Position where
  byte : Nat
  line : Nat
  column : Nat
  deriving DecidableEq, Repr, Inhabited

namespace Position

/-- Where every source starts. -/
def origin : Position := ⟨0, 1, 1⟩

/-- The place behind one character. Only a line feed starts a new line. -/
def after (p : Position) (c : Char) : Position :=
  if c = '\n' then ⟨p.byte + c.utf8Size, p.line + 1, 1⟩
  else ⟨p.byte + c.utf8Size, p.line, p.column + c.utf8Size⟩

end Position

/-- What a node is. -/
inductive Kind where
  -- the module, its imports and its exports
  | program | hashBangLine
  | importStatement | importClause | namespaceImport | namedImports | importSpecifier
  | importAttribute
  | exportStatement | exportDefault | exportClause | exportSpecifier | namespaceExport
  -- declarations
  | lexicalDeclaration | variableDeclaration | variableDeclarator
  | functionDeclaration | generatorFunctionDeclaration | classDeclaration
  -- statements
  | statementBlock | emptyStatement | expressionStatement | debuggerStatement
  | ifStatement | elseClause | switchStatement | switchBody | switchCase | switchDefault
  | forStatement | forInStatement | whileStatement | doStatement
  | tryStatement | catchClause | finallyClause | withStatement
  | breakStatement | continueStatement | returnStatement | throwStatement | labeledStatement
  -- functions and classes
  | functionExpression | generatorFunction | arrowFunction | methodDefinition
  | formalParameters | classExpression | classHeritage | classBody | fieldDefinition
  | classStaticBlock | decorator
  -- expressions
  | identifier | undefinedValue | privateName | this | super | booleanLiteral | nullLiteral
  | number | string | templateString | templateSubstitution | regex
  | object | pair | shorthandProperty | array | spreadElement
  | propertyName | computedPropertyName | statementLabel
  | parenthesizedExpression | sequenceExpression
  | memberExpression | subscriptExpression | callExpression | arguments | newExpression
  | metaProperty | importKeyword
  | unaryExpression | updateExpression | binaryExpression | ternaryExpression
  | awaitExpression | yieldExpression | assignmentExpression | augmentedAssignment
  -- binding and assignment patterns
  | objectPattern | arrayPattern | pairPattern | restPattern
  | shorthandPattern | objectAssignmentPattern | assignmentPattern
  -- markup
  | jsxElement | jsxSelfClosingElement | jsxOpeningElement | jsxClosingElement
  | jsxAttribute | jsxExpression | jsxName | jsxText
  deriving DecidableEq, Repr, Inhabited

namespace Kind

/-- Markup embedded in the script. -/
def isJsx : Kind → Bool
  | jsxElement | jsxSelfClosingElement | jsxOpeningElement | jsxClosingElement
  | jsxAttribute | jsxExpression | jsxName | jsxText => true
  | _ => false

/-- Nodes that start a function body, the only places where `return` is legal. -/
def isFunction : Kind → Bool
  | functionDeclaration | functionExpression | generatorFunction
  | generatorFunctionDeclaration | arrowFunction | methodDefinition => true
  | _ => false

/-- Nodes whose direct statements share one lexical scope. -/
def isScope : Kind → Bool
  | program | statementBlock | switchBody | classStaticBlock => true
  | _ => false

end Kind

/-- The part a node plays in its parent, where the parent tells its children apart. -/
inductive Role where
  | plain
  | declaration | value | name | renamed | left | right | key | body
  deriving DecidableEq, Repr, Inhabited

/-- A syntax tree. -/
structure Node where
  kind : Kind
  role : Role
  start : Position
  stop : Position
  /-- The covered source of a leaf; empty for a node with children. -/
  text : List Char
  children : List Node
  deriving Repr, Inhabited

namespace Node

/-- The same node in another role. -/
def withRole (n : Node) (role : Role) : Node := { n with role }

/-- The same node under another kind. -/
def withKind (n : Node) (kind : Kind) : Node := { n with kind }

/-- The child that plays `role`, the first if there are several. -/
def child? (n : Node) (role : Role) : Option Node :=
  n.children.find? (·.role == role)

end Node

end BlockAuthoring.Script
