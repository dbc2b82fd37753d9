/-!
# UTF-8

Texts as bytes. Reading refuses what is no shortest form of a scalar value and says where, and how
many bytes belong together there.
-/

namespace BlockAuthoring.Text.Utf8

/-- What is wrong with a byte sequence. -/
inductive Flaw where
  | invalidStart
  | invalidContinuation
  | unexpectedEnd
  deriving DecidableEq, Repr

/-- Where reading stops: the bytes from `start`, as many as `length`, and why. -/
structure Fault where
  start : Nat
  length : Nat
  firstByte : UInt8
  flaw : Flaw
  deriving DecidableEq, Repr

/-- What is said of a flaw. -/
def Flaw.message : Flaw → String
  | invalidStart => "invalid start byte"
  | invalidContinuation => "invalid continuation byte"
  | unexpectedEnd => "unexpected end of data"

/-- What is said of a fault. A single byte is shown, several are only counted. -/
def Fault.message (f : Fault) : String :=
  let hex (n : Nat) : String := String.ofList [Nat.digitChar (n / 16), Nat.digitChar (n % 16)]
  let bytes :=
    if f.length = 1 then
      "byte 0x" ++ hex f.firstByte.toNat ++ " in position " ++ toString f.start
    else
      "bytes in position " ++ toString f.start ++ "-" ++ toString (f.start + f.length - 1)
  "\x27utf-8\x27 codec can\x27t decode " ++ bytes ++ ": " ++ f.flaw.message

/-- The bytes of a text. -/
def encode (text : List Char) : List UInt8 := text.flatMap String.utf8EncodeChar

/-- The least and the greatest byte that may follow a first byte. -/
def secondRange (first : Nat) : Nat × Nat :=
  if first = 0xE0 then (0xA0, 0xBF)
  else if first = 0xED then (0x80, 0x9F)
  else if first = 0xF0 then (0x90, 0xBF)
  else if first = 0xF4 then (0x80, 0x8F)
  else (0x80, 0xBF)

/-- How many bytes follow a first byte, and its share of the code point; nothing for a byte that
starts none. -/
def following? (first : Nat) : Option (Nat × Nat) :=
  if first < 0x80 then some (0, first)
  else if first < 0xC2 then none
  else if first < 0xE0 then some (1, first - 0xC0)
  else if first < 0xF0 then some (2, first - 0xE0)
  else if first < 0xF5 then some (3, first - 0xF0)
  else none

/-- What the bytes behind a first byte give: the code point and the rest, or how many bytes belong
together and what is wrong with them. -/
def continued (least greatest taken : Nat) :
    Nat → Nat → List UInt8 → Except (Nat × Flaw) (Nat × List UInt8)
  | 0, point, rest => .ok (point, rest)
  | _ + 1, _, [] => .error (taken, .unexpectedEnd)
  | count + 1, point, b :: rest =>
    if least ≤ b.toNat && b.toNat ≤ greatest then
      continued 0x80 0xBF (taken + 1) count (point * 64 + (b.toNat - 0x80)) rest
    else .error (taken, .invalidContinuation)

theorem length_le_of_continued {least greatest taken count point : Nat} {bytes rest : List UInt8}
    {n : Nat} (h : continued least greatest taken count point bytes = .ok (n, rest)) :
    rest.length ≤ bytes.length := by
  induction bytes generalizing least greatest taken count point with
  | nil =>
    cases count with
    | zero => simp only [continued, Except.ok.injEq, Prod.mk.injEq] at h; simp [h.2]
    | succ count => simp [continued] at h
  | cons b bytes ih =>
    cases count with
    | zero => simp only [continued, Except.ok.injEq, Prod.mk.injEq] at h; simp [← h.2]
    | succ count =>
      simp only [continued] at h
      split at h
      · have := ih h
        simp only [List.length_cons]
        omega
      · exact absurd h (by simp)

/-- The text that bytes write, where the first of them stands at `position`. -/
def decodeFrom (position : Nat) : List UInt8 → Except Fault (List Char)
  | [] => .ok []
  | b :: bytes =>
    match following? b.toNat with
    | none => .error ⟨position, 1, b, .invalidStart⟩
    | some (count, share) =>
      match h : continued (secondRange b.toNat).1 (secondRange b.toNat).2 1 count share bytes with
      | .error (length, flaw) => .error ⟨position, length, b, flaw⟩
      | .ok (point, rest) =>
        (decodeFrom (position + 1 + count) rest).map (Char.ofNat point :: ·)
  termination_by bytes => bytes.length
  decreasing_by
    have := length_le_of_continued h
    simp only [List.length_cons]
    omega

/-- The text that bytes write. -/
def decode (bytes : List UInt8) : Except Fault (List Char) := decodeFrom 0 bytes

end BlockAuthoring.Text.Utf8
