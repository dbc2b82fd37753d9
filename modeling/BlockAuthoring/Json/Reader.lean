import BlockAuthoring.Json.Value
import BlockAuthoring.Number.Numeral

/-!
# Reading JSON

Reads a value off a text, or says what is wrong and where. Beyond the standard, `NaN` and the two
infinities are numbers; of members with one key the last one counts. A string is read as code
points, since an escape may write half of a pair.
-/

namespace BlockAuthoring.Json

open Number

/-- What is wrong with a text that is no JSON. -/
inductive Complaint where
  | expectingValue
  | expectingName
  | expectingColon
  | expectingComma
  | extraData
  | unterminatedString
  | controlCharacter
  | badEscape
  | badUnicodeEscape
  | byteOrderMark
  deriving DecidableEq, Repr

/-- The wording of a complaint. -/
def Complaint.wording : Complaint → String
  | expectingValue => "Expecting value"
  | expectingName => "Expecting property name enclosed in double quotes"
  | expectingColon => "Expecting ':' delimiter"
  | expectingComma => "Expecting ',' delimiter"
  | extraData => "Extra data"
  | unterminatedString => "Unterminated string starting at"
  | controlCharacter => "Invalid control character at"
  | badEscape => "Invalid \\escape"
  | badUnicodeEscape => "Invalid \\uXXXX escape"
  | byteOrderMark => "Unexpected UTF-8 BOM (decode using utf-8-sig)"

/-- Why a text is not read. A complaint is placed by the characters from there to the end. -/
inductive Trouble where
  | complaint (c : Complaint) (remaining : Nat)
  | tooManyDigits (count : Nat)
  deriving DecidableEq, Repr

/-- Complains about the text from `rest` on. -/
def complain {α : Type} (c : Complaint) (rest : List Char) : Except Trouble α :=
  .error (.complaint c rest.length)

/-- The four blanks that may stand between tokens. -/
def isBlank (c : Char) : Bool := c == ' ' || c == '\t' || c == '\n' || c == '\r'

/-- The text without blanks in front. -/
def skipBlanks (text : List Char) : List Char := text.dropWhile isBlank

/-! ## Strings -/

/-- The value of a hexadecimal digit. -/
def hexValue? (c : Char) : Option Nat :=
  if '0' ≤ c && c ≤ '9' then some (c.toNat - 0x30)
  else if 'a' ≤ c && c ≤ 'f' then some (c.toNat - 0x57)
  else if 'A' ≤ c && c ≤ 'F' then some (c.toNat - 0x37)
  else none

/-- The code unit that four hexadecimal digits write. -/
def codeUnit? : List Char → Option Nat
  | a :: b :: c :: d :: _ => do
    return ((← hexValue? a) * 16 + (← hexValue? b)) * 256
      + (← hexValue? c) * 16 + (← hexValue? d)
  | _ => none

/-- The character that a one-letter escape stands for. -/
def simpleEscape? : Char → Option Char
  | '"' => some '"'
  | '\\' => some '\\'
  | '/' => some '/'
  | 'b' => some '\x08'
  | 'f' => some '\x0c'
  | 'n' => some '\n'
  | 'r' => some '\r'
  | 't' => some '\t'
  | _ => none

/-- The code unit opens, or closes, a pair. -/
def isHigh (n : Nat) : Bool := 0xD800 ≤ n && n < 0xDC00
def isLow (n : Nat) : Bool := 0xDC00 ≤ n && n < 0xE000

/-- The code point behind `\u`, and the text behind the escape. `text` starts at the `u`. -/
def unicodeEscape (text : List Char) : Except Trouble (Nat × List Char) :=
  let digits := text.drop 1
  let behind := digits.drop 4
  if behind.isEmpty then complain .badUnicodeEscape text
  else match codeUnit? digits with
    | none => complain .badUnicodeEscape text
    | some n =>
      match behind with
      | '\\' :: 'u' :: more =>
        if isHigh n && 4 < more.length then
          match codeUnit? more with
          | none => complain .badUnicodeEscape ('u' :: more)
          | some m =>
            if isLow m then
              .ok (0x10000 + (n - 0xD800) * 0x400 + (m - 0xDC00), more.drop 4)
            else .ok (n, behind)
        else .ok (n, behind)
      | _ => .ok (n, behind)

/-- The code points of a string up to its closing quote. `opened` is the text from the opening
quote on, for the complaint that the string never ends. -/
def stringPoints (opened : List Char) : Nat → List Char → Except Trouble (List Nat × List Char)
  | 0, _ => complain .unterminatedString opened
  | _ + 1, [] => complain .unterminatedString opened
  | fuel + 1, c :: rest =>
    if c == '"' then .ok ([], rest)
    else if c.toNat ≤ 0x1F then complain .controlCharacter (c :: rest)
    else if c == '\\' then
      match rest with
      | [] => complain .unterminatedString opened
      | 'u' :: digits => do
        let (n, behind) ← unicodeEscape ('u' :: digits)
        let (ns, end') ← stringPoints opened fuel behind
        return (n :: ns, end')
      | e :: behind =>
        match simpleEscape? e with
        | none => complain .badEscape (c :: rest)
        | some d => do
          let (ns, end') ← stringPoints opened fuel behind
          return (d.toNat :: ns, end')
    else do
      let (ns, end') ← stringPoints opened fuel rest
      return (c.toNat :: ns, end')

/-- The character of a code point; half a pair has none, and is replaced. -/
def pointChar (n : Nat) : Char :=
  if isHigh n || isLow n then '\uFFFD' else Char.ofNat n

/-- A string, from behind its opening quote on. -/
def readString (behindQuote : List Char) : Except Trouble (String × List Char) := do
  let (ns, rest) ← stringPoints ('"' :: behindQuote) (behindQuote.length + 1) behindQuote
  return (String.ofList (ns.map pointChar), rest)

/-! ## Numbers -/

/-- The digits in front of a text. -/
def spanDigits (text : List Char) : List Char × List Char :=
  (text.takeWhile Char.isDigit, text.dropWhile Char.isDigit)

/-- The whole part of a number: no zero in front of other digits. -/
def wholePart : List Char → Option (List Char × List Char)
  | '0' :: rest => some (['0'], rest)
  | text =>
    match spanDigits text with
    | ([], _) => none
    | found => some found

/-- The fraction behind a point; without a digit, the point is not part of the number. -/
def fractionPart (text : List Char) : List Char × List Char :=
  match text with
  | '.' :: rest =>
    match spanDigits rest with
    | ([], _) => ([], text)
    | found => found
  | _ => ([], text)

/-- The exponent of a number, if it has one. -/
def exponentPart (text : List Char) : Option Int × List Char :=
  match text with
  | e :: rest =>
    if e == 'e' || e == 'E' then
      let (negative, body) := splitSign rest
      match spanDigits body with
      | ([], _) => (none, text)
      | (ds, behind) =>
        let n := Text.digitsValue ds
        (some (if negative then -(n : Int) else (n : Int)), behind)
    else (none, text)
  | [] => (none, text)

/-- A number. Without fraction and exponent it is whole. -/
def readNumber (text : List Char) : Except Trouble (Json × List Char) :=
  let (negative, body) := match text with
    | '-' :: rest => (true, rest)
    | _ => (false, text)
  match wholePart body with
  | none => complain .expectingValue text
  | some (whole, rest) =>
    let (fraction, rest) := fractionPart rest
    let (power, rest) := exponentPart rest
    if fraction.isEmpty && power.isNone then
      match digitsNumber whole with
      | .ok n => .ok (int (if negative then -(n : Int) else (n : Int)), rest)
      | .error (.tooManyDigits count) => .error (.tooManyDigits count)
      | .error .notANumeral => complain .expectingValue text
    else
      .ok (float (.ofDecimal negative (Text.digitsValue (whole ++ fraction))
        (power.getD 0 - fraction.length)), rest)

/-! ## Values -/

/-- The words that are values. -/
def words : List (List Char × Json) :=
  [("null".toList, null), ("true".toList, bool true), ("false".toList, bool false),
   ("NaN".toList, float .notANumber), ("Infinity".toList, float (.infinite false)),
   ("-Infinity".toList, float (.infinite true))]

mutual

/-- A value at the front of the text. -/
def readValue : Nat → List Char → Except Trouble (Json × List Char)
  | 0, text => complain .expectingValue text
  | fuel + 1, text =>
    match text with
    | '"' :: rest => do
      let (s, behind) ← readString rest
      return (string s, behind)
    | '[' :: rest =>
      match skipBlanks rest with
      | ']' :: behind => .ok (array [], behind)
      | rest => do
        let (items, behind) ← readItems fuel rest
        return (array items, behind)
    | '\x7b' :: rest =>
      match skipBlanks rest with
      | '\x7d' :: behind => .ok (object [], behind)
      | rest => do
        let (members, behind) ← readMembers fuel rest []
        return (object members, behind)
    | _ =>
      match words.find? (·.1.isPrefixOf text) with
      | some (word, v) => .ok (v, text.drop word.length)
      | none => readNumber text

/-- The items of an array up to its closing bracket; there is at least one. -/
def readItems : Nat → List Char → Except Trouble (List Json × List Char)
  | 0, text => complain .expectingValue text
  | fuel + 1, text => do
    let (v, rest) ← readValue fuel text
    match skipBlanks rest with
    | ']' :: behind => return ([v], behind)
    | ',' :: behind =>
      let (vs, end') ← readItems fuel (skipBlanks behind)
      return (v :: vs, end')
    | rest => complain .expectingComma rest

/-- The members of an object up to its closing brace, behind those read so far; there is at least
one more. -/
def readMembers :
    Nat → List Char → List (String × Json) → Except Trouble (List (String × Json) × List Char)
  | 0, text, _ => complain .expectingValue text
  | fuel + 1, text, found => do
    match text with
    | '"' :: rest =>
      let (key, rest) ← readString rest
      match skipBlanks rest with
      | ':' :: rest =>
        let (v, rest) ← readValue fuel (skipBlanks rest)
        let found := setMember found key v
        match skipBlanks rest with
        | '\x7d' :: behind => return (found, behind)
        | ',' :: behind => readMembers fuel (skipBlanks behind) found
        | rest => complain .expectingComma rest
      | rest => complain .expectingColon rest
    | rest => complain .expectingName rest

end

/-- The value a whole text writes. -/
def readText (text : List Char) : Except Trouble Json :=
  match text with
  | '\uFEFF' :: _ => complain .byteOrderMark text
  | _ => do
    let (v, rest) ← readValue (2 * text.length + 2) (skipBlanks text)
    match skipBlanks rest with
    | [] => return v
    | rest => complain .extraData rest

/-! ## Where a text is wrong -/

/-- A fault in a text: the complaint and its place, in characters from zero and as line and column
from one. -/
structure Fault where
  complaint : Complaint
  offset : Nat
  line : Nat
  column : Nat
  deriving DecidableEq, Repr

/-- The place behind `text`, as line and column. -/
def placeAfter (text : List Char) : Nat × Nat :=
  (text.count '\n' + 1, (text.reverse.takeWhile (· != '\n')).length + 1)

/-- The fault that is `remaining` characters before the end of `text`. -/
def faultAt (text : List Char) (c : Complaint) (remaining : Nat) : Fault :=
  let offset := text.length - remaining
  let (line, column) := placeAfter (text.take offset)
  ⟨c, offset, line, column⟩

/-- The wording of a fault. -/
def Fault.message (f : Fault) : String :=
  f.complaint.wording ++ ": line " ++ toString f.line ++ " column " ++ toString f.column
    ++ " (char " ++ toString f.offset ++ ")"

/-- Why a file is no JSON. -/
inductive ReadError where
  | fault (f : Fault)
  | tooManyDigits (count : Nat)
  deriving DecidableEq, Repr

/-- The wording of an error. -/
def ReadError.message : ReadError → String
  | fault f => f.message
  | tooManyDigits count => tooManyDigitsMessage count

/-- The value a text writes, or what is wrong with it. -/
def parse (text : List Char) : Except ReadError Json :=
  match readText text with
  | .ok v => .ok v
  | .error (.complaint c remaining) => .error (.fault (faultAt text c remaining))
  | .error (.tooManyDigits count) => .error (.tooManyDigits count)

end BlockAuthoring.Json
