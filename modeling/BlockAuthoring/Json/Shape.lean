import BlockAuthoring.Json.Checked
import BlockAuthoring.Number.Numeral

/-!
# Shapes

The forms that a part of a JSON value may have. Shapes are forgiving: a whole number may be
written as a flag, as a floating-point number without a fraction or as a numeral in a string, and
a flag as a number or as a word.
-/

namespace BlockAuthoring.Json

open Text Number

/-- Reads a value of a type out of JSON. -/
abbrev Shape (α : Type) := Json → Checked α

namespace Shape

variable {α β : Type}

/-! ## Scalars -/

/-- A string. -/
def text : Shape String
  | string s => .ok s
  | _ => .fail .notAString

/-- The words for true and false. -/
def flagWords : List (String × Bool) :=
  [("1", true), ("true", true), ("t", true), ("yes", true), ("y", true), ("on", true),
   ("0", false), ("false", false), ("f", false), ("no", false), ("n", false), ("off", false)]

/-- A flag: a boolean, zero or one, or a word in any case of letters. -/
def flag : Shape Bool
  | bool b => .ok b
  | int n => if n == 0 then .ok false else if n == 1 then .ok true else .fail .unreadableFlag
  | float x =>
    match x.toInt? with
    | some 0 => .ok false
    | some 1 => .ok true
    | _ => .fail .notAFlag
  | string s =>
    match flagWords.lookup (String.ofList (s.toList.map Char.toLower)) with
    | some b => .ok b
    | none => .fail .unreadableFlag
  | _ => .fail .notAFlag

/-- The digits of a numeral, where single low lines may stand between them. -/
def numeralDigits : List Char → Option (List Char)
  | [] => none
  | [c] => if c.isDigit then some [c] else none
  | c :: '_' :: d :: rest =>
    if c.isDigit then (numeralDigits (d :: rest)).map (c :: ·) else none
  | c :: d :: rest => if c.isDigit then (numeralDigits (d :: rest)).map (c :: ·) else none

/-- A numeral: white space around it, a sign, digits, and a point that only zeros follow. -/
def numeral (text : List Char) : Checked Int :=
  let (negative, body) := splitSign (trimWhite text)
  let fraction := body.dropWhile (· != '.')
  if fraction.drop 1 |>.all (· == '0') then
    match numeralDigits (body.takeWhile (· != '.')) with
    | some ds =>
      if maxDigits < ds.length then .fail .integerTooLong
      else
        let n : Int := digitsValue ds
        .ok (if negative then -n else n)
    | none => .fail .unreadableInteger
  else .fail .unreadableInteger

/-- A whole number. -/
def integer : Shape Int
  | int n => .ok n
  | bool b => .ok b.toNat
  | float x =>
    if !x.isFinite then .fail .notFinite
    else
      match x.toInt? with
      | some n => if n.natAbs < Nat.pow 2 63 then .ok n else .fail .integerTooLong
      | none => .fail .fractional
  | string s => numeral s.toList
  | _ => .fail .notAnInteger

/-- A whole number that is not below a bound. -/
def integerFrom (least : Nat) : Shape Nat := fun v =>
  match integer v with
  | .ok n => if (least : Int) ≤ n then .ok n.toNat else .fail .belowMinimum
  | .issues found => .issues found

/-- One of the words of a vocabulary. -/
def word (vocabulary : List (String × α)) : Shape α
  | string s =>
    match vocabulary.lookup s with
    | some a => .ok a
    | none => .fail .unknownWord
  | _ => .fail .unknownWord

/-- One certain word. -/
def exactly (w : String) (a : α) : Shape α
  | string s => if s == w then .ok a else .fail .otherWord
  | _ => .fail .otherWord

/-- The first of two forms that fits; if none does, the issues of both, each under its name. -/
def orElse (name : String) (first : Shape α) (name' : String) (second : Shape α) : Shape α :=
  fun v =>
    match first v, second v with
    | .ok a, _ => .ok a
    | .issues _, .ok a => .ok a
    | .issues found, .issues more =>
      .issues (found.map (fun i => { i with place := .form name :: i.place })
        ++ more.map (fun i => { i with place := .form name' :: i.place }))

/-! ## Lists -/

/-- The items of a list, the first of them under `index`. -/
def itemsFrom (shape : Shape α) (index : Nat) : List Json → Checked (List α)
  | [] => .ok []
  | v :: rest =>
    (((shape v).under (.item index)).map List.cons).apply (itemsFrom shape (index + 1) rest)

/-- A list. -/
def listOf (shape : Shape α) : Shape (List α)
  | array items => itemsFrom shape 0 items
  | _ => .fail .notAList

/-- A list that is not changed any more. -/
def sequenceOf (shape : Shape α) : Shape (List α)
  | array items => itemsFrom shape 0 items
  | _ => .fail .notASequence

/-! ## Members -/

/-- The name of a member: as it is written, and as it may be spelled too. -/
structure Key where
  written : String
  spelled : String
  deriving DecidableEq, Repr

/-- A name of one word has one spelling. -/
instance : Coe String Key := ⟨fun name => ⟨name, name⟩⟩

/-- The value under a key; the written form wins. -/
def Key.find? (key : Key) (v : Json) : Option Json :=
  (v.member? key.written).or (v.member? key.spelled)

/-- A member that has to be there. -/
def required (key : Key) (shape : Shape α) (v : Json) : Checked α :=
  (((key.find? v).map shape).getD (.fail .missing)).under (.member key.written)

/-- A member that stands for `value` if it is not there. -/
def defaulted (key : Key) (value : α) (shape : Shape α) (v : Json) : Checked α :=
  (((key.find? v).map shape).getD (.ok value)).under (.member key.written)

/-- A member that may be missing or `null`. -/
def nullable (key : Key) (shape : Shape α) : Json → Checked (Option α) :=
  defaulted key none fun v => if v.isNull then .ok none else (shape v).map some

/-- An object, read by its members. Members that are not read do not matter. -/
def members (read : Json → Checked α) : Shape α := fun v =>
  if v.isObject then read v else .fail .notAnObject

end Shape

end BlockAuthoring.Json
