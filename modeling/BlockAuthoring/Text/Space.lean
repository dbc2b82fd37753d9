/-!
# White space

The characters that trimming removes and that patterns take for a blank: the white space of
Unicode, together with the four separators U+001C to U+001F.
-/

namespace BlockAuthoring.Text

/-- The character is white space. -/
def isSpace (c : Char) : Bool :=
  let n := c.toNat
  (9 ≤ n && n ≤ 13) || (0x1C ≤ n && n ≤ 0x20) || n == 0x85 || n == 0xA0 || n == 0x1680
    || (0x2000 ≤ n && n ≤ 0x200A) || n == 0x2028 || n == 0x2029 || n == 0x202F || n == 0x205F
    || n == 0x3000

/-- The text without white space at its ends. -/
def trim (text : List Char) : List Char :=
  ((text.dropWhile isSpace).reverse.dropWhile isSpace).reverse

/-- The character has the White_Space property: the separators U+001C to U+001F are none. -/
def isWhite (c : Char) : Bool := isSpace c && !(0x1C ≤ c.toNat && c.toNat ≤ 0x1F)

/-- The text without characters of the White_Space property at its ends. -/
def trimWhite (text : List Char) : List Char :=
  ((text.dropWhile isWhite).reverse.dropWhile isWhite).reverse

/-- The text is empty or nothing but white space. -/
def isBlank (text : List Char) : Bool := text.all isSpace

end BlockAuthoring.Text
