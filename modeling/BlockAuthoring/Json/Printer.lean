import BlockAuthoring.Json.Value
import BlockAuthoring.Text.Digit

/-!
# Printing JSON

The text of a value over several lines, two blanks of indentation a level, in ASCII: every other
character is written as a `\u` escape of four digits, or two of them.
-/

namespace BlockAuthoring.Json

open Number

/-- A hexadecimal digit in lower case. -/
def hexDigit (n : Nat) : Char := Nat.digitChar n

/-- A code unit as an escape of four digits. -/
def unitEscape (n : Nat) : List Char :=
  ['\\', 'u', hexDigit (n / 4096 % 16), hexDigit (n / 256 % 16), hexDigit (n / 16 % 16),
    hexDigit (n % 16)]

/-- The text of one character inside a string. Characters outside the basic plane take two
escapes. -/
def escapeChar (c : Char) : List Char :=
  match c with
  | '"' => ['\\', '"']
  | '\\' => ['\\', '\\']
  | '\n' => ['\\', 'n']
  | '\r' => ['\\', 'r']
  | '\t' => ['\\', 't']
  | '\x08' => ['\\', 'b']
  | '\x0c' => ['\\', 'f']
  | c =>
    let n := c.toNat
    if 0x20 ≤ n && n < 0x7F then [c]
    else if n < 0x10000 then unitEscape n
    else
      let offset := n - 0x10000
      unitEscape (0xD800 + offset / 0x400) ++ unitEscape (0xDC00 + offset % 0x400)

/-- A string in quotes. -/
def quoted (s : String) : List Char := '"' :: s.toList.flatMap escapeChar ++ ['"']

/-- The text of a floating-point number; the three that are no decimals have names. -/
def floatText : Binary64 → List Char
  | .notANumber => "NaN".toList
  | .infinite negative => (if negative then "-Infinity" else "Infinity").toList
  | x => x.text.toList

/-- A line break and the indentation of a level. -/
def lineBreak (level : Nat) : List Char := '\n' :: List.replicate (2 * level) ' '

mutual

/-- The text of a value at a level of nesting. -/
def print (level : Nat) : Json → List Char
  | null => "null".toList
  | bool b => (if b then "true" else "false").toList
  | int n => (toString n).toList
  | float x => floatText x
  | string s => quoted s
  | array [] => ['[', ']']
  | array (v :: rest) =>
    '[' :: lineBreak (level + 1) ++ print (level + 1) v ++ printItems (level + 1) rest
      ++ lineBreak level ++ [']']
  | object [] => ['\x7b', '\x7d']
  | object ((k, v) :: rest) =>
    '\x7b' :: lineBreak (level + 1) ++ quoted k ++ ':' :: ' ' :: print (level + 1) v
      ++ printMembers (level + 1) rest ++ lineBreak level ++ ['\x7d']

/-- The further items of an array. -/
def printItems (level : Nat) : List Json → List Char
  | [] => []
  | v :: rest => ',' :: lineBreak level ++ print level v ++ printItems level rest

/-- The further members of an object. -/
def printMembers (level : Nat) : List (String × Json) → List Char
  | [] => []
  | (k, v) :: rest =>
    ',' :: lineBreak level ++ quoted k ++ ':' :: ' ' :: print level v
      ++ printMembers level rest

end

/-- The text of a value over several lines. -/
def pretty (v : Json) : String := String.ofList (print 0 v)

mutual

/-- The text of a value on one line, with a blank behind commas and colons. -/
def printLine : Json → List Char
  | null => "null".toList
  | bool b => (if b then "true" else "false").toList
  | int n => (toString n).toList
  | float x => floatText x
  | string s => quoted s
  | array [] => ['[', ']']
  | array (v :: rest) => '[' :: printLine v ++ printLineItems rest ++ [']']
  | object [] => ['\x7b', '\x7d']
  | object ((k, v) :: rest) =>
    '\x7b' :: quoted k ++ ':' :: ' ' :: printLine v ++ printLineMembers rest ++ ['\x7d']

/-- The further items of an array on one line. -/
def printLineItems : List Json → List Char
  | [] => []
  | v :: rest => ',' :: ' ' :: printLine v ++ printLineItems rest

/-- The further members of an object on one line. -/
def printLineMembers : List (String × Json) → List Char
  | [] => []
  | (k, v) :: rest => ',' :: ' ' :: quoted k ++ ':' :: ' ' :: printLine v ++ printLineMembers rest

end

/-- The text of a value on one line. -/
def oneLine (v : Json) : String := String.ofList (printLine v)

mutual

/-- No whole number in the value has more digits than are written. -/
def isWritable : Json → Bool
  | int n => (Nat.toDigits 10 n.natAbs).length ≤ Text.maxDigits
  | array items => areWritable items
  | object members => haveWritable members
  | _ => true

/-- All items can be written. -/
def areWritable : List Json → Bool
  | [] => true
  | v :: rest => isWritable v && areWritable rest

/-- The values of all members can be written. -/
def haveWritable : List (String × Json) → Bool
  | [] => true
  | (_, v) :: rest => isWritable v && haveWritable rest

end

end BlockAuthoring.Json
