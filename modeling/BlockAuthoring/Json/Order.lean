import BlockAuthoring.Json.Value

/-!
# The order of JSON values

Which of two values goes first. Numbers go by their exact size, whatever their kind, with `false` as
zero and `true` as one; texts go by code points; lists by their first elements that differ, and else
the shorter one goes first. Any two other values have no order, which a comparison of lists finds
out when it meets them.
-/

namespace BlockAuthoring

namespace Number

/-- The exact value of a finite number. -/
def Binary64.toRat? : Binary64 → Option Rat
  | finite negative significand exponent =>
    let magnitude : Rat := (significand : Rat) * 2 ^ exponent
    some (if negative then -magnitude else magnitude)
  | _ => none

/-- Where a number stands among all of them: at an exact value, or beyond all of these. -/
inductive Size where
  | lowest
  | exact (value : Rat)
  | highest
  deriving DecidableEq, Repr

/-- The first size is smaller than the second one. -/
def Size.isBelow : Size → Size → Bool
  | lowest, lowest => false
  | lowest, _ => true
  | exact a, exact b => decide (a < b)
  | exact _, highest => true
  | _, _ => false

end Number

namespace Json

open Number

/-- The size of a value that counts as a number. -/
def size? : Json → Option Size
  | bool b => some (.exact b.toNat)
  | int n => some (.exact n)
  | float (.infinite negative) => some (if negative then .lowest else .highest)
  | float x => x.toRat?.map .exact
  | _ => none

/-- The value counts as a number, be it one without a size. -/
def isNumeric : Json → Bool
  | bool _ | int _ | float _ => true
  | _ => false

mutual

/-- Two elements of lists are equal: numbers of one size, texts of the same characters, lists of
equal elements, objects with equal values under the same keys. -/
def isSame : Json → Json → Bool
  | null, null => true
  | float .notANumber, float .notANumber => true
  | string a, string b => a == b
  | array items, array items' => areSame items items'
  | object members, object members' =>
    members.length == members'.length && haveSame members members'
  | a, b => a.size?.isSome && a.size? == b.size?

/-- The elements of two lists are equal one by one. -/
def areSame : List Json → List Json → Bool
  | [], [] => true
  | a :: items, b :: items' => isSame a b && areSame items items'
  | _, _ => false

/-- All these members have equal values in another object. -/
def haveSame : List (String × Json) → List (String × Json) → Bool
  | [], _ => true
  | (key, a) :: members, members' =>
    (match members'.lookup key with
      | some b => isSame a b
      | none => false)
    && haveSame members members'

end

mutual

/-- The first value goes before the second one; or else the two values are given that have no
order. A number without a size goes before no number, and none before it. -/
def below? : Json → Json → Except (Json × Json) Bool
  | string a, string b => .ok (decide (a < b))
  | array items, array items' => itemsBelow? items items'
  | a, b =>
    if a.isNumeric && b.isNumeric then
      .ok (match a.size?, b.size? with
        | some size, some size' => size.isBelow size'
        | _, _ => false)
    else .error (a, b)

/-- The first list goes before the second one. -/
def itemsBelow? : List Json → List Json → Except (Json × Json) Bool
  | a :: items, b :: items' => if isSame a b then itemsBelow? items items' else below? a b
  | [], [] => .ok false
  | [], _ :: _ => .ok true
  | _ :: _, [] => .ok false

end

/-- What has no order in a comparison of two values. -/
def clash? (a b : Json) : Option (Json × Json) :=
  match below? a b with
  | .ok _ => none
  | .error found => some found

end Json

end BlockAuthoring
