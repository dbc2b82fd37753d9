/-!
# Script sources

The text of a block's script as it arrives: a sequence of code points, some of which may be
surrogates. A surrogate has no UTF-8 form, so a source is readable exactly when it holds none;
the first one is located by line and by column in code points.
-/

namespace BlockAuthoring.Script

/-- One code point of a source: a scalar value, or a surrogate code unit, which stands for no
character of its own. -/
inductive CodePoint where
  | scalar (c : Char)
  | surrogate (unit : UInt16)
  deriving DecidableEq, Repr, Inhabited

namespace CodePoint

/-- The code point is a surrogate. -/
def isSurrogate : CodePoint → Bool
  | scalar _ => false
  | surrogate _ => true

/-- The character a code point stands for. -/
def char? : CodePoint → Option Char
  | scalar c => some c
  | surrogate _ => none

end CodePoint

/-- A script as a sequence of code points. -/
abbrev Source := List CodePoint

namespace Source

/-- The source of well-formed text. -/
def ofChars (cs : List Char) : Source := cs.map .scalar

/-- The characters of a source, if no code point is a surrogate. -/
def chars? (s : Source) : Option (List Char) := s.mapM CodePoint.char?

/-- A place counted in lines and code points, both from one. -/
structure Place where
  line : Nat
  column : Nat
  deriving DecidableEq, Repr

/-- The code point between two lines. -/
def lineFeed : CodePoint := .scalar '\n'

/-- How far the last line feed of a text stands from its front, if it has one. -/
def lastLineFeed? (s : Source) : Option Nat :=
  (s.reverse.findIdx? (· == lineFeed)).map fun fromEnd => s.length - 1 - fromEnd

/-- The place behind a text: one line more than it has line feeds, and a column counted from behind
the last of them. -/
def placeBehind (before : Source) : Place :=
  let lineStart := before.lastLineFeed?.elim 0 (· + 1)
  ⟨before.count lineFeed + 1, before.length - lineStart + 1⟩

/-- The place of the first surrogate, if there is one. -/
def firstSurrogate (s : Source) : Option Place :=
  (s.findIdx? CodePoint.isSurrogate).map fun start => placeBehind (s.take start)

@[simp] theorem chars?_ofChars (cs : List Char) : chars? (ofChars cs) = some cs := by
  induction cs with
  | nil => rfl
  | cons c cs ih =>
    simp only [chars?, ofChars] at ih
    simp [chars?, ofChars, CodePoint.char?, ih]

end Source

end BlockAuthoring.Script
