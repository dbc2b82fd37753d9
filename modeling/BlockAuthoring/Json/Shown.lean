import BlockAuthoring.Json.Value
import BlockAuthoring.Text.Quoted

/-!
# Showing JSON values in messages

How a value is named and shown where a text is expected: a string as it is, all else in the
notation of messages, with strings in quotes.
-/

namespace BlockAuthoring.Json

/-- The type of a value, as messages call it. -/
def typeName : Json → String
  | null => "NoneType"
  | bool _ => "bool"
  | int _ => "int"
  | float _ => "float"
  | string _ => "str"
  | array _ => "list"
  | object _ => "dict"

mutual

/-- The notation of a value. -/
def written : Json → String
  | null => "None"
  | bool b => if b then "True" else "False"
  | int n => toString n
  | float x => x.text
  | string s => Text.quoted s
  | array items => "[" ++ ", ".intercalate (notations items) ++ "]"
  | object members => "\x7b" ++ ", ".intercalate (memberNotations members) ++ "\x7d"

/-- The notations of several values. -/
def notations : List Json → List String
  | [] => []
  | v :: rest => written v :: notations rest

/-- The notations of the members of an object. -/
def memberNotations : List (String × Json) → List String
  | [] => []
  | (k, v) :: rest => (Text.quoted k ++ ": " ++ written v) :: memberNotations rest

end

/-- A value as part of a text. -/
def shown : Json → String
  | string s => s
  | v => written v

end BlockAuthoring.Json
