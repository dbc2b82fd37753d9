/-!
# Lexical rules

How the characters of a script group into names, numbers, operators, strings and patterns. Each
scanner splits what it reads off the front of the text and answers `none` when the text does not
start with such a token; it always takes the longest one.
-/

namespace BlockAuthoring.Script.Lexis

/-- What a scanner answers: the token's characters and the text behind it. -/
abbrev Split := Option (List Char × List Char)

/-! ## Characters -/

/-- White space between tokens, line ends included. -/
def isBlank (c : Char) : Bool :=
  let n := c.toNat
  (9 ≤ n && n ≤ 13) || n == 0x20 || n == 0x85 || n == 0xA0 || n == 0x1680
    || (0x2000 ≤ n && n ≤ 0x200B) || n == 0x2028 || n == 0x2029 || n == 0x202F
    || n == 0x205F || n == 0x2060 || n == 0x3000 || n == 0xFEFF

/-- Characters after which a statement may end without a semicolon. -/
def isLineEnd (c : Char) : Bool :=
  c == '\n' || c.toNat == 0x2028 || c.toNat == 0x2029

/-- Characters that end a `//` comment: a carriage return does, though it ends no line. -/
def endsComment (c : Char) : Bool := c == '\r' || isLineEnd c

/-- Punctuation that no name contains. -/
def isPunctuation (c : Char) : Bool :=
  ":;`\"'@#.,|^&<=>+-*/\\%?!~()[]\x7b\x7d".toList.contains c

/-- Characters a name may continue with. -/
def isNameChar (c : Char) : Bool :=
  !(c.toNat < 0x20 || isBlank c || isPunctuation c)

/-- Characters a name may start with. -/
def isNameStart (c : Char) : Bool := isNameChar c && !c.isDigit

/-- A hexadecimal digit. -/
def isHexDigit (c : Char) : Bool :=
  c.isDigit || ('a' ≤ c && c ≤ 'f') || ('A' ≤ c && c ≤ 'F')

/-- A digit below eight. -/
def isOctalDigit (c : Char) : Bool := '0' ≤ c && c ≤ '7'

/-! ## Names -/

/-- A unicode escape in a name: `\uXXXX` or `\u` and hexadecimal digits in braces. -/
def scanUnicodeEscape : List Char → Split
  | '\\' :: 'u' :: '\x7b' :: rest =>
    let digits := rest.takeWhile isHexDigit
    match digits, rest.dropWhile isHexDigit with
    | _ :: _, '\x7d' :: rest' =>
      some ('\\' :: 'u' :: '\x7b' :: digits ++ ['\x7d'], rest')
    | _, _ => none
  | '\\' :: 'u' :: a :: b :: c :: d :: rest =>
    if [a, b, c, d].all isHexDigit then some (['\\', 'u', a, b, c, d], rest) else none
  | _ => none

/-- The characters and escapes a name goes on with; `fuel` bounds their number. -/
def scanNameTail : Nat → List Char → List Char × List Char
  | 0, text => ([], text)
  | _ + 1, [] => ([], [])
  | fuel + 1, c :: rest =>
    if isNameChar c then
      let (more, behind) := scanNameTail fuel rest
      (c :: more, behind)
    else match scanUnicodeEscape (c :: rest) with
      | some (escape, rest') =>
        let (more, behind) := scanNameTail fuel rest'
        (escape ++ more, behind)
      | none => ([], c :: rest)

/-- A name, reserved words included. -/
def scanName : List Char → Split
  | [] => none
  | c :: rest =>
    if isNameStart c then
      let (more, behind) := scanNameTail rest.length rest
      some (c :: more, behind)
    else match scanUnicodeEscape (c :: rest) with
      | some (escape, rest') =>
        let (more, behind) := scanNameTail rest'.length rest'
        some (escape ++ more, behind)
      | none => none

/-- Words that are never an identifier. -/
def reservedWords : List String :=
  ["break", "case", "catch", "class", "const", "continue", "debugger", "default", "delete",
   "do", "else", "export", "extends", "false", "finally", "for", "function", "if", "import",
   "in", "instanceof", "new", "null", "return", "super", "switch", "this", "throw", "true",
   "try", "typeof", "var", "void", "while", "with"]

/-- The word is reserved. -/
def isReserved (word : String) : Bool := reservedWords.contains word

/-! ## Operators and punctuation -/

/-- Every operator and punctuation mark, longer ones first. -/
def marks : List (List Char) :=
  [">>>=",
   "...", "===", "!==", "**=", "<<=", ">>=", ">>>", "&&=", "||=", "??=",
   "=>", "==", "!=", "++", "--", "+=", "-=", "**", "*=", "/=", "%=", "<=", ">=", "<<", ">>",
   "&&", "&=", "||", "|=", "^=", "??", "?.",
   "\x7b", "\x7d", "(", ")", "[", "]", ";", ",", "~", "?", ":", ".", "=", "!", "+", "-", "*",
   "/", "%", "<", ">", "&", "|", "^", "@"].map String.toList

/-- The optional-chaining mark in front of a digit is a question mark and a number. -/
def isQuestionAndNumber : List Char → Bool
  | '?' :: '.' :: c :: _ => c.isDigit
  | _ => false

/-- The longest mark at the front of the text, and the text behind it. -/
def scanMark (text : List Char) : Split :=
  if isQuestionAndNumber text then some (['?'], text.drop 1)
  else (marks.find? (·.isPrefixOf text)).map fun mark => (mark, text.drop mark.length)

/-! ## Numbers -/

/-- Digits of one class, single underscores between them. -/
def scanDigits (isDigit : Char → Bool) : List Char → Split
  | [] => none
  | c :: rest => if isDigit c then some (let (ds, behind) := go rest; (c :: ds, behind)) else none
where
  /-- What follows a digit. -/
  go : List Char → List Char × List Char
    | [] => ([], [])
    | '_' :: d :: rest =>
      if isDigit d then let (ds, behind) := go rest; ('_' :: d :: ds, behind)
      else ([], '_' :: d :: rest)
    | d :: rest =>
      if isDigit d then let (ds, behind) := go rest; (d :: ds, behind) else ([], d :: rest)

/-- Decimal digits. -/
def scanDecimal : List Char → Split := scanDigits Char.isDigit

/-- An exponent: `e` or `E`, an optional sign, digits. -/
def scanExponent : List Char → Split
  | e :: rest =>
    if e == 'e' || e == 'E' then
      match rest with
      | s :: rest' =>
        if s == '+' || s == '-' then
          (scanDecimal rest').map fun (ds, behind) => (e :: s :: ds, behind)
        else (scanDecimal rest).map fun (ds, behind) => (e :: ds, behind)
      | [] => none
    else none
  | [] => none

/-- `p` and then `q`. -/
def andThen (p q : List Char → Split) (text : List Char) : Split := do
  let (a, rest) ← p text
  let (b, behind) ← q rest
  return (a ++ b, behind)

/-- `p`, or nothing. -/
def optionally (p : List Char → Split) (text : List Char) : Split :=
  (p text).or (some ([], text))

/-- The given characters, letter for letter. -/
def literal (word : String) (text : List Char) : Split :=
  if word.toList.isPrefixOf text then some (word.toList, text.drop word.length) else none

/-- The longest of what the scanners find. -/
def longest (scanners : List (List Char → Split)) (text : List Char) : Split :=
  scanners.foldl (fun best scan =>
    match best, scan text with
    | some (a, ra), some (b, rb) => if a.length < b.length then some (b, rb) else some (a, ra)
    | none, found => found
    | found, none => found) none

/-- Digits of another base behind their mark. -/
def scanBase (marks : List String) (isDigit : Char → Bool) : List Char → Split :=
  longest (marks.map fun mark => andThen (literal mark) (scanDigits isDigit))

def scanHexadecimal : List Char → Split := scanBase ["0x", "0X"] isHexDigit

def scanBinary : List Char → Split := scanBase ["0b", "0B"] fun c => c == '0' || c == '1'

def scanOctal : List Char → Split := scanBase ["0o", "0O"] isOctalDigit

/-- The integer part of a decimal fraction: no more than one leading zero. -/
def scanIntegerPart (text : List Char) : Split :=
  match text with
  | '0' :: c :: _ =>
    if '1' ≤ c && c ≤ '9' then andThen (literal "0") scanDecimal text else some (['0'], text.drop 1)
  | '0' :: [] => some (['0'], [])
  | _ => scanDecimal text

/-- A number literal: any base, fractions, exponents, and the `n` of big integers. -/
def scanNumber : List Char → Split :=
  longest [
    scanHexadecimal, scanBinary, scanOctal, scanDecimal,
    andThen (longest [scanHexadecimal, scanBinary, scanOctal, scanDecimal]) (literal "n"),
    andThen scanIntegerPart
      (andThen (literal ".") (andThen (optionally scanDecimal) (optionally scanExponent))),
    andThen (literal ".") (andThen scanDecimal (optionally scanExponent)),
    andThen scanIntegerPart scanExponent]

/-! ## Strings, templates and patterns -/

/-- An escape: a backslash and what it stands before. -/
def scanEscape : List Char → Split
  | '\\' :: 'x' :: a :: b :: rest =>
    if isHexDigit a && isHexDigit b then some (['\\', 'x', a, b], rest) else none
  | '\\' :: 'u' :: rest => scanUnicodeEscape ('\\' :: 'u' :: rest)
  | '\\' :: '\r' :: '\n' :: rest => some (['\\', '\r', '\n'], rest)
  | '\\' :: 'x' :: _ => none
  | '\\' :: c :: rest => some (['\\', c], rest)
  | _ => none

/-- The inside of a string up to and with its closing quote. No raw line break. -/
def scanStringTail (quote : Char) : Nat → List Char → Split
  | 0, _ => none
  | _ + 1, [] => none
  | fuel + 1, c :: rest =>
    if c == quote then some ([c], rest)
    else if c == '\\' then do
      let (escape, rest') ← scanEscape (c :: rest)
      let (more, behind) ← scanStringTail quote fuel rest'
      return (escape ++ more, behind)
    else if c == '\n' || c == '\r' then none
    else do
      let (more, behind) ← scanStringTail quote fuel rest
      return (c :: more, behind)

/-- A string literal in single or double quotes. -/
def scanString : List Char → Split
  | c :: rest =>
    if c == '"' || c == '\'' then
      (scanStringTail c (rest.length + 1) rest).map fun (more, behind) => (c :: more, behind)
    else none
  | [] => none

/-- How the characters of a template literal end: at the closing quote, or at a substitution. -/
inductive TemplateStop where
  | quote
  | substitution
  deriving DecidableEq, Repr

/-- Template characters up to and with the mark that stops them. -/
def scanTemplateChars : Nat → List Char → Option (List Char × TemplateStop × List Char)
  | 0, _ => none
  | _ + 1, [] => none
  | _ + 1, '\x60' :: rest => some (['\x60'], .quote, rest)
  | _ + 1, '$' :: '\x7b' :: rest => some (['$', '\x7b'], .substitution, rest)
  | fuel + 1, '\\' :: rest => do
    let (escape, rest') ← scanEscape ('\\' :: rest)
    let (more, stop, behind) ← scanTemplateChars fuel rest'
    return (escape ++ more, stop, behind)
  | fuel + 1, c :: rest => do
    let (more, stop, behind) ← scanTemplateChars fuel rest
    return (c :: more, stop, behind)

/-- The body of a regular expression up to and with its closing slash. `inClass` holds inside
brackets, where a slash is a plain character. -/
def scanRegexTail (inClass : Bool) : List Char → Split
  | [] => none
  | '\n' :: _ => none
  | '\\' :: c :: rest =>
    if c == '\n' then none
    else (scanRegexTail inClass rest).map fun (more, behind) => ('\\' :: c :: more, behind)
  | c :: rest =>
    if c == '/' && !inClass then some ([c], rest)
    else if c == '\\' then none
    else
      let inClass' := if c == '[' then true else if c == ']' then false else inClass
      (scanRegexTail inClass' rest).map fun (more, behind) => (c :: more, behind)

/-- A regular expression literal with its flags. The body is not looked into any further. -/
def scanRegex : List Char → Split
  | '/' :: c :: rest =>
    if c == '/' || c == '*' then none
    else (scanRegexTail false (c :: rest)).map fun (more, behind) =>
      let isFlag := fun c : Char => 'a' ≤ c && c ≤ 'z'
      ('/' :: more ++ behind.takeWhile isFlag, behind.dropWhile isFlag)
  | _ => none

end BlockAuthoring.Script.Lexis
