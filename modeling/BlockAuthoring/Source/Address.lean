import BlockAuthoring.Text.Quoted
import BlockAuthoring.Text.Utf8
import BlockAuthoring.Disk.Path

/-!
# Addresses

The address of a request: where the service is, the path on it, a query and perhaps a fragment.
Characters that may not stand in an address are written as their bytes.
-/

namespace BlockAuthoring

/-- An address. -/
structure Address where
  /-- Scheme and host, such as `https://api.test`. -/
  origin : List Char
  /-- The path, with every byte that needs it escaped. -/
  path : List Char
  query : List Char
  fragment : Option (List Char)
  deriving DecidableEq, Repr

namespace Address

open Text

/-! ## Escapes -/

/-- A hexadecimal digit in upper case. -/
def hexDigit (n : Nat) : Char := (Nat.digitChar n).toUpper

/-- A byte as an escape. -/
def byteEscape (b : UInt8) : List Char :=
  ['%', hexDigit (b.toNat / 16), hexDigit (b.toNat % 16)]

/-- A character as the escapes of its bytes. -/
def escape (c : Char) : List Char := (Utf8.encode [c]).flatMap byteEscape

/-- The character may stand in a path. -/
def isPathChar (c : Char) : Bool :=
  0x20 < c.toNat && c.toNat < 0x7F
    && c ∉ ['"', '#', '<', '>', '?', '\x60', '\x7b', '\x7d']

/-- The character may stand in a fragment. -/
def isFragmentChar (c : Char) : Bool :=
  0x20 < c.toNat && c.toNat < 0x7F && c ∉ ['"', '<', '>', '\x60']

/-- The character may stand in the value of a query. -/
def isQueryChar (c : Char) : Bool :=
  c.isAlphanum || c == '_' || c == '.' || c == '-' || c == '~'

/-- The text with all but the characters of a class escaped. Escapes that are there stay. -/
def escapeExcept (isPlain : Char → Bool) (text : List Char) : List Char :=
  text.flatMap fun c => if isPlain c then [c] else escape c

/-- The value of a query, with plus signs for blanks. -/
def queryValue (text : List Char) : List Char :=
  text.flatMap fun c => if c == ' ' then ['+'] else if isQueryChar c then [c] else escape c

/-- The value of a hexadecimal digit. -/
def hexValue? (c : Char) : Option Nat :=
  if '0' ≤ c && c ≤ '9' then some (c.toNat - 0x30)
  else if 'a' ≤ c && c ≤ 'f' then some (c.toNat - 0x61 + 10)
  else if 'A' ≤ c && c ≤ 'F' then some (c.toNat - 0x41 + 10)
  else none

/-- The bytes of a text with its escapes resolved. -/
def unescapedBytes : List Char → List UInt8
  | [] => []
  | '%' :: a :: b :: rest =>
    match hexValue? a, hexValue? b with
    | some x, some y => UInt8.ofNat (16 * x + y) :: unescapedBytes rest
    | _, _ => Utf8.encode ['%'] ++ unescapedBytes (a :: b :: rest)
  | c :: rest => Utf8.encode [c] ++ unescapedBytes rest

/-! ## Paths -/

/-- Puts a part behind those before it: a single dot says nothing, two lead back. -/
def pushPart (before : List (List Char)) (part : List Char) : List (List Char) :=
  if part = ['.'] then before
  else if part = ['.', '.'] then
    if before = [] || before = [[]] then before else before.dropLast
  else before ++ [part]

/-- The path without dots. -/
def withoutDots (path : List Char) : List Char :=
  ['/'].intercalate ((Path.slashParts path).foldl pushPart [])

/-! ## Reading and writing -/

/-- Takes a scheme off the front of a text. -/
def scheme? (text : List Char) : Option (List Char × List Char) :=
  let name := text.takeWhile fun c => c.isAlphanum || c == '+' || c == '.' || c == '-'
  match name, text.drop name.length with
  | first :: _, ':' :: rest => if first.isAlpha then some (name, rest) else none
  | _, _ => none

/-- The host with its port, where the port that is meant anyway is left out. -/
def hostOf (scheme authority : List Char) : List Char :=
  let host := authority.map Char.toLower
  let usual :=
    if scheme = "https".toList then ":443".toList
    else if scheme = "http".toList then ":80".toList
    else []
  if usual ≠ [] && usual.isSuffixOf host then host.take (host.length - usual.length) else host

/-- Scheme and host of a text, and what follows them. -/
def splitOrigin (text : List Char) : List Char × List Char :=
  let (scheme, rest) := ((scheme? text).map fun (s, r) => (s.map Char.toLower, r)).getD ([], text)
  let before := if scheme = [] then [] else scheme ++ [':']
  match rest with
  | '/' :: '/' :: more =>
    let authority := more.takeWhile fun c => c != '/' && c != '?' && c != '#'
    (before ++ ['/', '/'] ++ hostOf scheme authority, more.drop authority.length)
  | _ => (before, rest)

/-- The address that a text writes, with a query of its own. -/
def ofText (text query : List Char) : Address :=
  let (origin, rest) := splitOrigin text
  let path := rest.takeWhile fun c => c != '?' && c != '#'
  let behind := (rest.drop path.length).dropWhile (· != '#')
  { origin
    path := escapeExcept isPathChar (if origin = [] then path else withoutDots path)
    query
    fragment := if behind = [] then none else some (escapeExcept isFragmentChar behind.tail) }

/-- The text of an address. -/
def text (a : Address) : String :=
  String.ofList (a.origin ++ a.path ++ '?' :: a.query ++ (a.fragment.map ('#' :: ·)).getD [])

/-- The path of an address with its escapes resolved, if they write a text. -/
def plainPath (a : Address) : Option String :=
  (Utf8.decode (unescapedBytes a.path)).toOption.map String.ofList

/-- The first control character of a text, and how many characters stand before it. -/
def control? (text : List Char) : Option (Char × Nat) :=
  let before := text.takeWhile fun c => 0x20 ≤ c.toNat && c.toNat != 0x7F
  (text.drop before.length).head?.map (·, before.length)

end Address

end BlockAuthoring
