import BlockAuthoring.Text.Shown

/-!
# Quoted texts

How a text is shown in a message: in single quotes, or in double ones if it holds a single quote
and no double one. A character that is not shown stands as an escape with its code point.
-/

namespace BlockAuthoring.Text

/-- The lowest hexadecimal digits of a number, as many as asked for. -/
def hexDigits : Nat → Nat → List Char
  | 0, _ => []
  | count + 1, n => hexDigits count (n / 16) ++ [Nat.digitChar (n % 16)]

/-- An escape: its letter and the digits of a code point. -/
def codeEscape (letter : Char) (count n : Nat) : List Char := '\\' :: letter :: hexDigits count n

/-- A character inside quotes. -/
def quotedChar (quote c : Char) : List Char :=
  if c == quote || c == '\\' then ['\\', c]
  else if c == '\n' then ['\\', 'n']
  else if c == '\r' then ['\\', 'r']
  else if c == '\t' then ['\\', 't']
  else if isShown c then [c]
  else if c.toNat ≤ 0xFF then codeEscape 'x' 2 c.toNat
  else if c.toNat ≤ 0xFFFF then codeEscape 'u' 4 c.toNat
  else codeEscape 'U' 8 c.toNat

/-- A text in quotes. -/
def quoted (text : String) : String :=
  let cs := text.toList
  let quote := if cs.contains '\x27' && !cs.contains '"' then '"' else '\x27'
  String.ofList (quote :: cs.flatMap (quotedChar quote) ++ [quote])

end BlockAuthoring.Text
