import BlockAuthoring.Script.Binding

/-!
# What a strict module refuses

The grammar accepts more than a strict module allows. Six rules of a module are checked on the
tree; of all violations the one that starts first is reported.
-/

namespace BlockAuthoring.Script

/-- Why a well-formed script is no strict module. -/
inductive Violation where
  | markup
  | withStatement
  | strayReturn
  | legacyNumber
  | secondDefaultExport
  | redeclared (name : List Char)
  deriving DecidableEq, Repr

/-- A violation and the node that commits it. -/
structure Offence where
  node : Node
  violation : Violation
  deriving Repr

namespace Node

/-- A number such as `012` or `08.5`: a zero and another digit. -/
def isLegacyNumber (n : Node) : Bool :=
  match n.kind, n.text with
  | .number, '0' :: c :: _ => c.isDigit
  | _, _ => false

/-- A node that offends, or that would if it is not the first of its sort. -/
inductive Suspect where
  | offence (o : Offence)
  | defaultExport (n : Node)
  deriving Repr

/-- What a node itself is suspected of, its children aside. -/
def suspectedOf (inFunction : Bool) (n : Node) : List Suspect :=
  let own : List Suspect :=
    match n.kind with
    | .withStatement => [.offence ⟨n, .withStatement⟩]
    | .returnStatement => if inFunction then [] else [.offence ⟨n, .strayReturn⟩]
    | .number => if n.isLegacyNumber then [.offence ⟨n, .legacyNumber⟩] else []
    | .exportDefault => [.defaultExport n]
    | _ => []
  let inScope :=
    if n.kind.isScope then n.redeclared.map fun d => .offence ⟨d, .redeclared d.text⟩ else []
  own ++ inScope

/-- `return` is legal among the children of a node: always under a function, never directly under
a static block, and elsewhere as around the node. -/
def returnAllowedBelow (inFunction : Bool) (kind : Kind) : Bool :=
  kind.isFunction || (inFunction && kind != .classStaticBlock)

/-- Everything suspect in a tree, in document order. Markup is suspect as a whole and not looked
into. -/
def suspects (inFunction : Bool) : Node → List Suspect
  | ⟨kind, role, start, stop, text, children⟩ =>
    if kind.isJsx then [.offence ⟨⟨kind, role, start, stop, text, children⟩, .markup⟩]
    else
      suspectedOf inFunction ⟨kind, role, start, stop, text, children⟩
        ++ inAll (returnAllowedBelow inFunction kind) children
where
  /-- Everything suspect in the trees, one after the other. -/
  inAll (inFunction : Bool) : List Node → List Suspect
    | [] => []
    | n :: rest => suspects inFunction n ++ inAll inFunction rest

/-- The offences among suspects: the first default export is none, every later one is. -/
def offencesOf (exported : Bool) : List Suspect → List Offence
  | [] => []
  | .offence o :: rest => o :: offencesOf exported rest
  | .defaultExport n :: rest =>
    if exported then ⟨n, .secondDefaultExport⟩ :: offencesOf true rest
    else offencesOf true rest

/-- The offences of a tree in document order. -/
def offences (root : Node) : List Offence := offencesOf false (root.suspects false)

end Node

/-- The offence that starts first; of those that start together, the first in the list. -/
def earliest : List Offence → Option Offence
  | [] => none
  | o :: rest =>
    match earliest rest with
    | none => some o
    | some p => if p.node.start.byte < o.node.start.byte then some p else some o

/-- The offence a strict module is refused for, if the tree holds any. -/
def Node.firstOffence (root : Node) : Option Offence := earliest root.offences

end BlockAuthoring.Script
