/-!
# Base64

Bytes as letters, four for every three of them. Reading is lenient: characters outside the
alphabet are skipped, and so is padding before a quad has two letters; a padding that completes a
quad ends the data.
-/

namespace BlockAuthoring.Text.Base64

/-- Why letters give no bytes. -/
inductive Fault where
  /-- One letter is left over behind so many. -/
  | strayLetter (letters : Nat)
  | incorrectPadding
  deriving DecidableEq, Repr

/-- What is said of a fault. -/
def Fault.message : Fault → String
  | strayLetter letters =>
    "Invalid base64-encoded string: number of data characters (" ++ toString letters
      ++ ") cannot be 1 more than a multiple of 4"
  | incorrectPadding => "Incorrect padding"

/-- The value of a letter. -/
def letterValue? (c : Char) : Option Nat :=
  let n := c.toNat
  if 'A' ≤ c && c ≤ 'Z' then some (n - 65)
  else if 'a' ≤ c && c ≤ 'z' then some (n - 97 + 26)
  else if '0' ≤ c && c ≤ '9' then some (n - 48 + 52)
  else if c == '+' then some 62
  else if c == '/' then some 63
  else none

/-- How far a quad has been read. -/
structure Quad where
  /-- The letters of this quad, at most three. -/
  letters : Nat
  /-- The bits that no byte has taken yet. -/
  pending : Nat
  /-- The padding since the last letter. -/
  pads : Nat
  deriving DecidableEq, Repr

/-- The bytes that letters write, where `count` letters stand before them in complete quads. -/
def decodeFrom (count : Nat) (quad : Quad) : List Char → Except Fault (List UInt8)
  | [] =>
    if quad.letters = 0 then .ok []
    else if quad.letters = 1 then .error (.strayLetter (count + 1))
    else .error .incorrectPadding
  | c :: rest =>
    if c == '=' then
      if 2 ≤ quad.letters then
        if 4 ≤ quad.letters + quad.pads + 1 then .ok []
        else decodeFrom count { quad with pads := quad.pads + 1 } rest
      else decodeFrom count quad rest
    else
      match letterValue? c with
      | none => decodeFrom count quad rest
      | some v =>
        match quad.letters with
        | 0 => decodeFrom count ⟨1, v, 0⟩ rest
        | 1 =>
          (decodeFrom count ⟨2, v % 16, 0⟩ rest).map (UInt8.ofNat (quad.pending * 4 + v / 16) :: ·)
        | 2 =>
          (decodeFrom count ⟨3, v % 4, 0⟩ rest).map (UInt8.ofNat (quad.pending * 16 + v / 4) :: ·)
        | _ =>
          (decodeFrom (count + 4) ⟨0, 0, 0⟩ rest).map (UInt8.ofNat (quad.pending * 64 + v) :: ·)

/-- The bytes that letters write. -/
def decode (letters : List Char) : Except Fault (List UInt8) := decodeFrom 0 ⟨0, 0, 0⟩ letters

end BlockAuthoring.Text.Base64
