import BlockAuthoring.Text.Digit
import BlockAuthoring.Text.Space
import BlockAuthoring.Text.Word

/-!
# Surface patterns

A block is judged by what its text looks like. A pattern says whether it matches at the front of
a text, how much it takes and which part it captures; a scan finds its matches from left to right,
each one starting behind the one before.
-/

namespace BlockAuthoring.Surface

open Text

/-- A match at the front of a text. -/
structure Match where
  length : Nat
  captured : List Char
  deriving DecidableEq, Repr

/-- What a pattern matches at the front of a text. -/
abbrev Pattern := List Char → Option Match

/-- A match and where in the text it stands, counted in characters. -/
structure Occurrence where
  start : Nat
  stop : Nat
  captured : List Char
  deriving DecidableEq, Repr

/-- The part of a text that a match takes. -/
def Occurrence.matched (o : Occurrence) (text : List Char) : List Char :=
  (text.drop o.start).take (o.stop - o.start)

namespace Pattern

/-- The pattern matches somewhere in the text. -/
def occurs (p : Pattern) : List Char → Bool
  | [] => (p []).isSome
  | c :: rest => (p (c :: rest)).isSome || occurs p rest

/-- The matches in a text that starts at `position`, where the next `skip` characters belong to
the match before. -/
def scanFrom (p : Pattern) (skip position : Nat) : List Char → List Occurrence
  | [] => []
  | c :: rest =>
    match skip with
    | n + 1 => scanFrom p n (position + 1) rest
    | 0 =>
      match p (c :: rest) with
      | some m =>
        ⟨position, position + m.length, m.captured⟩
          :: scanFrom p (m.length - 1) (position + 1) rest
      | none => scanFrom p 0 (position + 1) rest

/-- The matches in a text, from left to right and without overlap. -/
def scan (p : Pattern) (text : List Char) : List Occurrence := scanFrom p 0 0 text

/-- What the matches in a text capture. -/
def captures (p : Pattern) (text : List Char) : List (List Char) := (p.scan text).map (·.captured)

end Pattern

/-! ## Building patterns -/

/-- The text behind `word`, if the text starts with it. -/
def behind (word : String) (text : List Char) : Option (List Char) :=
  if word.toList.isPrefixOf text then some (text.drop word.length) else none

/-- A word, letter for letter. -/
def word (w : String) : Pattern := fun text => do
  let _ ← behind w text
  return ⟨w.length, []⟩

/-- `w`, white space, and then `next`. -/
def spaced (w next : String) : Pattern := fun text => do
  let rest ← behind w text
  let blanks := rest.takeWhile isSpace
  let _ ← behind next (rest.drop blanks.length)
  return ⟨w.length + blanks.length + next.length, []⟩

/-- `before`, one or more characters of a class, and `after`; captures the characters. -/
def run (before : String) (isIn : Char → Bool) (after : String) : Pattern := fun text => do
  let rest ← behind before text
  let captured := rest.takeWhile isIn
  if captured.isEmpty then none
  else
    let _ ← behind after (rest.drop captured.length)
    return ⟨before.length + captured.length + after.length, captured⟩

/-- `before`, something in quotes, and `after`; captures what is quoted. -/
def quoted (before : String) (quote : Char) (after : String) : Pattern :=
  run (before.push quote) (· != quote) (quote.toString ++ after)

/-- The text starts with white space and an arrow; the length of both. -/
def spacedArrow (text : List Char) : Option Nat :=
  let blanks := text.takeWhile isSpace
  (behind "=>" (text.drop blanks.length)).map fun _ => blanks.length + 2

/-- The length, plus `offset`, of the longest beginning of a text that is a rest of a line, a
closing parenthesis, white space and an arrow. -/
def lastArrow (offset : Nat) : List Char → Option Nat
  | [] => none
  | c :: rest =>
    let here := if c == ')' then (spacedArrow rest).map (offset + 1 + ·) else none
    if c == '\n' then none else (lastArrow (offset + 1) rest).or here

end BlockAuthoring.Surface
