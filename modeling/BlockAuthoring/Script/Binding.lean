import BlockAuthoring.Script.Tree

/-!
# Bindings of a scope

Which names the direct statements of a scope declare, in source order, and which of them repeat
an earlier one in a way a module refuses: two declarations of one name may stand side by side only
if neither of them is lexical.
-/

namespace BlockAuthoring.Script

namespace Node

/-- The identifiers that a declared name or pattern binds, in source order. Default values,
computed keys and property names bind nothing. -/
def bindingNames : Node → List Node
  | n@⟨.identifier, _, _, _, _, _⟩ => [n]
  | n@⟨.shorthandPattern, _, _, _, _, _⟩ => [n]
  | ⟨.assignmentPattern, _, _, _, _, children⟩ => firstIn .left children
  | ⟨.objectAssignmentPattern, _, _, _, _, children⟩ => firstIn .left children
  | ⟨.pairPattern, _, _, _, _, children⟩ => firstIn .value children
  | ⟨_, _, _, _, _, children⟩ => inAll children
where
  /-- What the first node in the given role binds. -/
  firstIn (role : Role) : List Node → List Node
    | [] => []
    | n :: rest => if n.role == role then bindingNames n else firstIn role rest
  /-- What the nodes bind, one after the other. -/
  inAll : List Node → List Node
    | [] => []
    | n :: rest => bindingNames n ++ inAll rest

/-- The local name an import specifier brings in: its alias if it has one. -/
def importedName (specifier : Node) : Option Node :=
  match (specifier.child? .renamed).or (specifier.child? .name) with
  | some name => if name.kind == .identifier then some name else none
  | none => none

/-- The names one part of an import clause brings in. -/
def importPartNames (part : Node) : List Node :=
  match part.kind with
  | .identifier => [part]
  | .namespaceImport => part.children.filter (·.kind == .identifier)
  | .namedImports => part.children.filterMap importedName
  | _ => []

/-- The names an import statement brings in. -/
def importNames (statement : Node) : List Node :=
  (statement.children.filter (·.kind == .importClause)).flatMap fun clause =>
    clause.children.flatMap importPartNames

end Node

/-- A name declared in a scope. A lexical declaration suffers no other one of its name. -/
structure Declared where
  name : Node
  lexical : Bool
  deriving Repr

namespace Node

/-- What a declaration declares. -/
def declaresItself (n : Node) : List Declared :=
  let names (lexical : Bool) : List Declared :=
    (n.children.filter (·.kind == .variableDeclarator)).flatMap fun d =>
      ((d.child? .name).elim [] bindingNames).map (⟨·, lexical⟩)
  match n.kind with
  | .lexicalDeclaration => names true
  | .variableDeclaration => names false
  | .classDeclaration => (n.child? .name).toList.map (⟨·, true⟩)
  | .functionDeclaration | .generatorFunctionDeclaration =>
    (n.child? .name).toList.map (⟨·, false⟩)
  | .importStatement => n.importNames.map (⟨·, true⟩)
  | _ => []

/-- What a statement declares in its scope. An export hands its declaration through, also where
exports are nested. -/
def declares : Node → List Declared
  | ⟨.exportStatement, _, _, _, _, children⟩ => exported children
  | ⟨.exportDefault, _, _, _, _, children⟩ => exported children
  | n => n.declaresItself
where
  /-- What the first declaration among the nodes declares. -/
  exported : List Node → List Declared
    | [] => []
    | n :: rest => if n.role == .declaration then declares n else exported rest

/-- The statements that share the scope of a node: those of all cases of a `switch`, and else
the node's own. -/
def scopeStatements (scope : Node) : List Node :=
  if scope.kind == .switchBody then scope.children.flatMap (·.children) else scope.children

/-- What the statements of a scope declare, in source order. -/
def scopeDeclarations (scope : Node) : List Declared := scope.scopeStatements.flatMap declares

end Node

/-- The declarations that repeat an earlier name, given the names seen so far. -/
def redeclaredAfter (lexicalNames otherNames : List (List Char)) : List Declared → List Node
  | [] => []
  | d :: rest =>
    let name := d.name.text
    let later :=
      if d.lexical then redeclaredAfter (name :: lexicalNames) otherNames rest
      else redeclaredAfter lexicalNames (name :: otherNames) rest
    if lexicalNames.contains name || (d.lexical && otherNames.contains name)
    then d.name :: later else later

/-- The declarations that repeat an earlier one of their scope, one of the two being lexical. -/
def Node.redeclared (scope : Node) : List Node := redeclaredAfter [] [] scope.scopeDeclarations

end BlockAuthoring.Script
