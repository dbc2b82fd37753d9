import BlockAuthoring.Text.Quoted

/-!
# The console

What commands print on. Its encoding has codes for some characters only, those of ASCII among them;
a text with another character is not printed at all.
-/

namespace BlockAuthoring

/-- What commands print on. -/
structure Console where
  encoding : String
  /-- The characters that the encoding has codes for. -/
  encodes : Char → Bool
  /-- What is said of the others. -/
  reason : String
  encodes_ascii : ∀ c, c.toNat < 0x80 → encodes c = true

/-- Why a text cannot be printed: the first characters in a row that have no code. -/
structure EncodingFault where
  encoding : String
  position : Nat
  characters : List Char
  reason : String
  deriving DecidableEq, Repr

/-- The wording of a fault. -/
def EncodingFault.message (f : EncodingFault) : String :=
  let escape (c : Char) : List Char :=
    if c.toNat ≤ 0xFF then Text.codeEscape 'x' 2 c.toNat
    else if c.toNat ≤ 0xFFFF then Text.codeEscape 'u' 4 c.toNat
    else Text.codeEscape 'U' 8 c.toNat
  let which :=
    match f.characters with
    | [c] => " \x27" ++ String.ofList (escape c) ++ "\x27 in position " ++ toString f.position
    | run => "s in position " ++ toString f.position ++ "-"
      ++ toString (f.position + run.length - 1)
  "\x27" ++ f.encoding ++ "\x27 codec can\x27t encode character" ++ which ++ ": " ++ f.reason

namespace Console

/-- Why the console does not print a text. -/
def fault? (console : Console) (text : String) : Option EncodingFault :=
  let before := text.toList.takeWhile console.encodes
  match (text.toList.drop before.length).takeWhile (!console.encodes ·) with
  | [] => none
  | run => some ⟨console.encoding, before.length, run, console.reason⟩

/-- A console that prints everything. -/
def unicode : Console where
  encoding := "utf-8"
  encodes _ := true
  reason := "surrogates not allowed"
  encodes_ascii _ _ := rfl

/-- A console that prints ASCII only. -/
def ascii : Console where
  encoding := "ascii"
  encodes c := c.toNat < 0x80
  reason := "ordinal not in range(128)"
  encodes_ascii _ h := decide_eq_true h

end Console

end BlockAuthoring
