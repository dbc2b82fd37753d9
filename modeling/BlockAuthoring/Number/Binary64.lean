/-!
# Binary floating point

Numbers of the 64-bit binary format as exact values: a sign, a significand and a power of two.
Conversion from decimal rounds to the nearest number, ties to the even significand; the decimal
text of a number has the fewest digits that read back, and of those the nearest.
-/

namespace BlockAuthoring.Number

/-- A number of the 64-bit binary format. A finite one is `significand * 2 ^ exponent`, with the
significand below `2 ^ 53`, the exponent at least `-1074`, and one of the two at its bound from
the other side (a full significand or the least exponent). -/
inductive Binary64 where
  | finite (negative : Bool) (significand : Nat) (exponent : Int)
  | infinite (negative : Bool)
  | notANumber
  deriving DecidableEq, Repr, Inhabited

namespace Binary64

/-- Zero. -/
def zero (negative : Bool) : Binary64 := finite negative 0 (-1074)

/-- Equal to zero. -/
def isZero : Binary64 → Bool
  | finite _ significand _ => significand == 0
  | _ => false

/-- Neither infinite nor no number. -/
def isFinite : Binary64 → Bool
  | finite .. => true
  | _ => false

/-- `num / den` rounded to a whole number, ties to even. -/
def roundDiv (num den : Nat) : Nat :=
  let q := num / den
  let twice := 2 * (num % den)
  if twice < den then q
  else if den < twice then q + 1
  else if q % 2 = 0 then q else q + 1

/-- `num / den * 2 ^ (-shift)` as a fraction of whole numbers. -/
def scaled (num den : Nat) (shift : Int) : Nat × Nat :=
  if shift ≤ 0 then (num * Nat.pow 2 (-shift).toNat, den) else (num, den * Nat.pow 2 shift.toNat)

/-- The number nearest to `num / den`. -/
def ofRatio (negative : Bool) (num den : Nat) : Binary64 :=
  if num = 0 then zero negative
  else
    let guess : Int := (Nat.log2 num : Int) - Nat.log2 den - 53
    let (a, b) := scaled num den guess
    let exponent := max (if a / b < Nat.pow 2 53 then guess else guess + 1) (-1074)
    let (a, b) := scaled num den exponent
    let q := roundDiv a b
    let (q, exponent) := if q = Nat.pow 2 53 then (Nat.pow 2 52, exponent + 1) else (q, exponent)
    if exponent > 971 then infinite negative else finite negative q exponent

/-- How many decimal digits a number has; none for zero. -/
def digitCount (n : Nat) : Nat := if n = 0 then 0 else (Nat.toDigits 10 n).length

/-- The number nearest to `digits * 10 ^ power`. -/
def ofDecimal (negative : Bool) (digits : Nat) (power : Int) : Binary64 :=
  let size : Int := digitCount digits + power
  if digits = 0 then zero negative
  else if size > 310 then infinite negative
  else if size < -330 then zero negative
  else if power ≥ 0 then ofRatio negative (digits * Nat.pow 10 power.toNat) 1
  else ofRatio negative digits (Nat.pow 10 (-power).toNat)

/-- The number nearest to a whole number. -/
def ofInt (n : Int) : Binary64 := ofRatio (n < 0) n.natAbs 1

/-- The whole number that a number is equal to, if there is one. -/
def toInt? : Binary64 → Option Int
  | finite negative significand exponent =>
    let magnitude : Option Nat :=
      if exponent ≥ 0 then some (significand * Nat.pow 2 exponent.toNat)
      else
        let unit := Nat.pow 2 (-exponent).toNat
        if significand % unit = 0 then some (significand / unit) else none
    magnitude.map fun m => if negative then -(m : Int) else (m : Int)
  | _ => none

/-! ## Decimal text -/

/-- Twice the significand and its two half-way neighbours, over a common power of two: the reals
strictly between the outer two round to the number, and they themselves do if it is even. -/
structure Interval where
  low : Nat
  mid : Nat
  high : Nat
  /-- The common power of two is `2 ^ exponent`. -/
  exponent : Int
  closed : Bool

/-- The interval of reals that round to a number. Below a power of two the neighbour is nearer. -/
def interval (significand : Nat) (exponent : Int) : Interval :=
  if significand = Nat.pow 2 52 && exponent > -1074 then
    ⟨4 * significand - 1, 4 * significand, 4 * significand + 2, exponent - 2,
      significand % 2 = 0⟩
  else
    ⟨2 * significand - 1, 2 * significand, 2 * significand + 1, exponent - 1,
      significand % 2 = 0⟩

/-- `a * 2 ^ exponent` over `10 ^ power`, as a fraction. -/
def overPower (a : Nat) (exponent power : Int) : Nat × Nat :=
  let (num, den) :=
    if exponent ≥ 0 then (a * Nat.pow 2 exponent.toNat, 1)
    else (a, Nat.pow 2 (-exponent).toNat)
  if power ≥ 0 then (num, den * Nat.pow 10 power.toNat)
  else (num * Nat.pow 10 (-power).toNat, den)

/-- The point of the grid of multiples of `10 ^ power` that rounds to the number and is nearest to
it, if there is one. -/
def onGrid (i : Interval) (power : Int) : Option Nat :=
  let (num, den) := overPower i.mid i.exponent power
  let (low, _) := overPower i.low i.exponent power
  let (high, _) := overPower i.high i.exponent power
  let inside (d : Nat) : Bool :=
    if i.closed then low ≤ d * den && d * den ≤ high else low < d * den && d * den < high
  let below := num / den
  let above := below + 1
  if inside below && inside above then
    let down := num - below * den
    let up := above * den - num
    if down < up || (down = up && below % 2 = 0) then some below else some above
  else if inside below then some below
  else if inside above then some above
  else none

/-- The first of the grids from `power` downwards that has a point, with its power. -/
def firstGrid (i : Interval) : Nat → Int → Nat × Int
  | 0, power => (0, power)
  | fuel + 1, power =>
    match onGrid i power with
    | some d => (d, power)
    | none => firstGrid i fuel (power - 1)

/-- The power of ten of a number's first digit. -/
def leadingPower (significand : Nat) (exponent : Int) : Int :=
  let (num, den) := overPower significand exponent 0
  if den ≤ num then (digitCount (num / den) : Int) - 1
  else
    -- the digits of the reciprocal, rounded up, count the places in front
    let reciprocal := (den + num - 1) / num
    0 - (digitCount (reciprocal - 1) : Int)

/-- The fewest digits that read back as the number, and the power of ten of the last of them. -/
def shortest (significand : Nat) (exponent : Int) : Nat × Int :=
  firstGrid (interval significand exponent) 18 (leadingPower significand exponent + 1)

/-- Digits without zeros behind them. -/
def stripZeros : Nat → Nat → Int → Nat × Int
  | 0, d, power => (d, power)
  | fuel + 1, d, power =>
    if d ≠ 0 && d % 10 = 0 then stripZeros fuel (d / 10) (power + 1) else (d, power)

/-- How decimal text is laid out. -/
structure Layout where
  /-- The powers of the first digit that are written with a plain point. -/
  leastPositional : Int
  greatestPositional : Int
  /-- Least number of digits of an exponent. -/
  exponentDigits : Nat
  deriving Repr

/-- Numbers print positionally from `0.0001` up to sixteen digits, always with a fraction; other
ones with an exponent of two digits or more. -/
def plainLayout : Layout := ⟨-4, 15, 2⟩

/-- Zeros in front of a text, up to the given length. -/
def padLeft (width : Nat) (text : List Char) : List Char :=
  List.replicate (width - text.length) '0' ++ text

/-- The decimal text of a positive number. -/
def positiveText (layout : Layout) (significand : Nat) (exponent : Int) : List Char :=
  let (d, power) := shortest significand exponent
  let (d, power) := stripZeros 20 d power
  let digits := Nat.toDigits 10 d
  let lead : Int := power + digits.length - 1
  if layout.leastPositional ≤ lead && lead ≤ layout.greatestPositional then
    if power ≥ 0 then digits ++ List.replicate power.toNat '0' ++ ".0".toList
    else if lead ≥ 0 then
      digits.take (lead.toNat + 1) ++ '.' :: digits.drop (lead.toNat + 1)
    else "0.".toList ++ List.replicate (-lead - 1).toNat '0' ++ digits
  else
    let fraction := if digits.length ≤ 1 then [] else '.' :: digits.drop 1
    let sign := if lead < 0 then '-' else '+'
    digits.take 1 ++ fraction
      ++ 'e' :: sign :: padLeft layout.exponentDigits (Nat.toDigits 10 lead.natAbs)

/-- The decimal text of a number. -/
def text (x : Binary64) : String :=
  match x with
  | notANumber => "nan"
  | infinite negative => if negative then "-inf" else "inf"
  | finite negative significand exponent =>
    let body :=
      if significand = 0 then "0.0".toList else positiveText plainLayout significand exponent
    String.ofList (if negative then '-' :: body else body)

end Binary64

end BlockAuthoring.Number
