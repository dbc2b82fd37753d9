import BlockAuthoring.Number.Binary64

/-!
# JSON values

Values as a reader gives them and a printer takes them. Objects keep the order of their members;
numbers are whole numbers of any size or binary floating-point numbers.
-/

namespace BlockAuthoring

open Number

/-- A JSON value. -/
inductive Json where
  | null
  | bool (b : Bool)
  | int (n : Int)
  | float (x : Binary64)
  | string (s : String)
  | array (items : List Json)
  | object (members : List (String × Json))
  deriving Repr, Inhabited

namespace Json

/-- The member of an object under a key; nothing for other values. -/
def member? (key : String) : Json → Option Json
  | object members => members.lookup key
  | _ => none

/-- The value under a key, where a missing member counts as `null`. -/
def get (key : String) (v : Json) : Json := (v.member? key).getD null

/-- The value is an object. -/
def isObject : Json → Bool
  | object _ => true
  | _ => false

/-- The value is an array. -/
def isArray : Json → Bool
  | array _ => true
  | _ => false

/-- The value is `null`. -/
def isNull : Json → Bool
  | null => true
  | _ => false

/-- The value says something: it is not `null`, `false`, zero or empty. -/
def isTruthy : Json → Bool
  | null => false
  | bool b => b
  | int n => n != 0
  | float x => !x.isZero
  | string s => !s.isEmpty
  | array items => !items.isEmpty
  | object members => !members.isEmpty

/-- The text of a string value. -/
def string? : Json → Option String
  | string s => some s
  | _ => none

/-- An array of strings. -/
def strings (ss : List String) : Json := array (ss.map string)

/-- A string, or `null` for none. -/
def ofString? (s : Option String) : Json := s.elim null string

/-- Sets a member: in place if the key is there, else at the end. -/
def setMember (members : List (String × Json)) (key : String) (value : Json) :
    List (String × Json) :=
  if members.any (·.1 == key) then
    members.map fun m => if m.1 == key then (key, value) else m
  else members ++ [(key, value)]

/-- The members that have a value. -/
def present (members : List (String × Option Json)) : List (String × Json) :=
  members.filterMap fun (key, value) => value.map (key, ·)

end Json

end BlockAuthoring
