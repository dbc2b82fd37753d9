import BlockAuthoring.Number.Binary64
import BlockAuthoring.Text.Digit
import BlockAuthoring.Text.Space

/-!
# Numerals

Numbers as people write them in settings and on command lines: white space around them, a sign,
digits of any script, single low lines between digits. Whole numbers of more than 4300 digits are
refused.
-/

namespace BlockAuthoring.Number

open Text

/-- Why a text is no whole number. -/
inductive NumeralFault where
  | notANumeral
  | tooManyDigits (count : Nat)
  deriving DecidableEq, Repr

/-- What is said of a numeral that is too long. -/
def tooManyDigitsMessage (count : Nat) : String :=
  "Exceeds the limit (4300 digits) for integer string conversion: value has "
    ++ toString count
    ++ " digits; use sys.set_int_max_str_digits() to increase the limit"

/-- What is said of a number whose numeral would be too long. -/
def notWritableMessage : String :=
  "Exceeds the limit (4300 digits) for integer string conversion; "
    ++ "use sys.set_int_max_str_digits() to increase the limit"

/-- The number that digits write, unless they are too many. -/
def digitsNumber (ds : List Char) : Except NumeralFault Nat :=
  if maxDigits < ds.length then .error (.tooManyDigits ds.length) else .ok (digitsValue ds)

/-- The sign in front of a text, and the text behind it. -/
def splitSign : List Char → Bool × List Char
  | '-' :: rest => (true, rest)
  | '+' :: rest => (false, rest)
  | text => (false, text)

/-- The digits of a run with single low lines between them, and what follows the run. A low line
that no digit follows ends nothing: the run is broken. -/
def digitRun : List Char → Option (List Char × List Char)
  | [] => some ([], [])
  | c :: '_' :: rest =>
    if isDecimal c then
      if rest.head?.any isDecimal then
        (digitRun rest).map fun (ds, behind) => (c :: ds, behind)
      else none
    else some ([], c :: '_' :: rest)
  | c :: rest =>
    if isDecimal c then (digitRun rest).map fun (ds, behind) => (c :: ds, behind)
    else some ([], c :: rest)

/-- The whole number that a text writes. -/
def readInteger (text : List Char) : Except NumeralFault Int :=
  let (negative, body) := splitSign (trimWhite text)
  match digitRun body with
  | some (d :: ds, []) =>
    (digitsNumber (d :: ds)).map fun n => if negative then -(n : Int) else (n : Int)
  | _ => .error .notANumeral

/-- The power of ten that a text such as `e-5` writes; nothing stands for zero. -/
def readPower : List Char → Option Int
  | [] => some 0
  | e :: rest =>
    if e == 'e' || e == 'E' then
      let (negative, body) := splitSign rest
      match digitRun body with
      | some (d :: ds, []) =>
        let n := digitsValue (d :: ds)
        some (if negative then -(n : Int) else (n : Int))
      | _ => none
    else none

/-- The words that write numbers which no digits do. -/
def readWord (negative : Bool) (body : List Char) : Option Binary64 :=
  let word := String.ofList (body.map Char.toLower)
  if word == "inf" || word == "infinity" then some (.infinite negative)
  else if word == "nan" then some .notANumber
  else none

/-- The floating-point number that a text writes. -/
def readBinary64 (text : List Char) : Option Binary64 :=
  let (negative, body) := splitSign (trimWhite text)
  match digitRun body with
  | none => none
  | some (whole, rest) =>
    let (fraction, rest) :=
      match rest with
      | '.' :: rest' =>
        match digitRun rest' with
        | some (ds, behind) => (some ds, behind)
        | none => (none, rest')
      | _ => (some [], rest)
    match fraction with
    | none => none
    | some fraction =>
      if whole.isEmpty && fraction.isEmpty then readWord negative body
      else
        (readPower rest).map fun power =>
          Binary64.ofDecimal negative (digitsValue (whole ++ fraction)) (power - fraction.length)

end BlockAuthoring.Number
