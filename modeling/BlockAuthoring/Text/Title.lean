import BlockAuthoring.Text.Uppercase

/-!
# Titles

How names become titles: the first letter of a word in upper case, the rest as it is.
-/

namespace BlockAuthoring.Text

/-- The text with its first character in upper case. -/
def capitalized : List Char → List Char
  | [] => []
  | c :: rest => upper c ++ rest

/-- The parts of a text between hyphens. There is always at least one. -/
def hyphenParts : List Char → List (List Char)
  | [] => [[]]
  | '-' :: rest => [] :: hyphenParts rest
  | c :: rest =>
    match hyphenParts rest with
    | part :: parts => (c :: part) :: parts
    | [] => [[c]]

/-- The title of a hyphenated name: its parts capitalized, with blanks between them. -/
def titleOf (name : List Char) : List Char :=
  [' '].intercalate ((hyphenParts name).map capitalized)

/-- The text with its first hyphen replaced by a blank. -/
def openFirstHyphen : List Char → List Char
  | [] => []
  | '-' :: rest => ' ' :: rest
  | c :: rest => c :: openFirstHyphen rest

end BlockAuthoring.Text
