import BlockAuthoring.Script.Tree

/-!
# Expressions read as patterns

What a declaration binds, the parameters of a function and the left side of an assignment are read
as expressions first. `toPattern?` turns such a tree into the pattern it stands for, in which members
may stand where names do; `needsPattern` finds the trees that mean something only as a pattern.
-/

namespace BlockAuthoring.Script.Node

/-- A default value with `=` inside an object literal, which only a pattern may have. Array and
object literals hand the question on to what they directly hold; every other node has settled it. -/
def needsPattern : Node → Bool
  | ⟨.objectAssignmentPattern, _, _, _, _, _⟩ => true
  | ⟨.object, _, _, _, _, children⟩ => anyNeedsPattern children
  | ⟨.array, _, _, _, _, children⟩ => anyNeedsPattern children
  | ⟨.pair, _, _, _, _, children⟩ => anyNeedsPattern children
  | ⟨.spreadElement, _, _, _, _, children⟩ => anyNeedsPattern children
  | _ => false
where
  /-- One of the nodes needs to be a pattern. -/
  anyNeedsPattern : List Node → Bool
    | [] => false
    | n :: rest => needsPattern n || anyNeedsPattern rest

/-- The pattern over what stands behind three dots. A default value there belongs to the whole. -/
def restOver (role : Role) (start stop : Position) (text : List Char) : Node → Node
  | ⟨.assignmentPattern, _, _, _, _, [left, right]⟩ =>
    let rest : Node := ⟨.restPattern, .left, start, left.stop, [], [left.withRole .plain]⟩
    ⟨.assignmentPattern, role, start, stop, text, [rest, right]⟩
  | p => ⟨.restPattern, role, start, stop, text, [p]⟩

/-- The pattern an expression stands for: what a value may be bound or assigned to, with a default
value or without. Only an assignment may have a place in parentheses on its left, a default may
not. -/
def toPattern? : Node → Option Node
  | ⟨.object, role, start, stop, text, children⟩ =>
    (members? children).map fun cs => ⟨.objectPattern, role, start, stop, text, cs⟩
  | ⟨.array, role, start, stop, text, children⟩ =>
    (elements? children).map fun cs => ⟨.arrayPattern, role, start, stop, text, cs⟩
  | ⟨.assignmentExpression, role, start, stop, text, [left, right]⟩ =>
    if left.kind = .parenthesizedExpression then none
    else some ⟨.assignmentPattern, role, start, stop, text, [left, right]⟩
  | n@⟨.identifier, _, _, _, _, _⟩ | n@⟨.undefinedValue, _, _, _, _, _⟩
  | n@⟨.memberExpression, _, _, _, _, _⟩ | n@⟨.subscriptExpression, _, _, _, _, _⟩ => some n
  | _ => none
where
  /-- The elements of an array pattern. -/
  elements? : List Node → Option (List Node)
    | [] => some []
    | ⟨.spreadElement, role, start, stop, text, [inner]⟩ :: rest =>
      match toPattern? inner, elements? rest with
      | some p, some ps => some (restOver role start stop text p :: ps)
      | _, _ => none
    | n :: rest =>
      match toPattern? n, elements? rest with
      | some p, some ps => some (p :: ps)
      | _, _ => none
  /-- The members of an object pattern. -/
  members? : List Node → Option (List Node)
    | [] => some []
    | n :: rest =>
      match member? n, members? rest with
      | some p, some ps => some (p :: ps)
      | _, _ => none
  /-- A member of an object pattern. -/
  member? : Node → Option Node
    | ⟨.shorthandProperty, role, start, stop, text, children⟩ =>
      some ⟨.shorthandPattern, role, start, stop, text, children⟩
    | n@⟨.objectAssignmentPattern, _, _, _, _, _⟩ => some n
    | ⟨.pair, role, start, stop, text, [key, value]⟩ =>
      (toPattern? value).map fun p => ⟨.pairPattern, role, start, stop, text, [key, p]⟩
    | ⟨.spreadElement, role, start, stop, text, [inner]⟩ =>
      if inner.kind = .assignmentExpression then none
      else (toPattern? inner).map fun p => ⟨.restPattern, role, start, stop, text, [p]⟩
    | _ => none

/-- The element of an array pattern, or the parameter, that an entry of a list stands for. -/
def toElement? : Node → Option Node
  | ⟨.spreadElement, role, start, stop, text, [inner]⟩ =>
    inner.toPattern?.map (restOver role start stop text)
  | n => n.toPattern?

/-- An expression that names a single place: an identifier or a member, also in parentheses. -/
def isPlace : Node → Bool
  | ⟨.identifier, _, _, _, _, _⟩ | ⟨.undefinedValue, _, _, _, _, _⟩
  | ⟨.memberExpression, _, _, _, _, _⟩ | ⟨.subscriptExpression, _, _, _, _, _⟩ => true
  | ⟨.parenthesizedExpression, _, _, _, _, [inner]⟩ => inner.isPlace
  | _ => false

/-- What may stand on the left of a plain `=`: a pattern that is no default itself, or a place
in parentheses. -/
def toTarget? (n : Node) : Option Node :=
  match n.kind with
  | .parenthesizedExpression => if n.isPlace then some n else none
  | .assignmentExpression | .spreadElement => none
  | _ => n.toPattern?

end BlockAuthoring.Script.Node
