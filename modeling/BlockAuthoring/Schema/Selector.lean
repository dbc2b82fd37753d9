import BlockAuthoring.Number.Numeral
import BlockAuthoring.Surface.Pattern
import BlockAuthoring.Text.Title

/-!
# Selectors

A field is bound to a part of the authored table by a selector. Positional selectors name a tag
and the place of the element among its siblings; places are written from one and counted from zero.
-/

namespace BlockAuthoring

open Text Surface Number

namespace Selector

/-- The element with a tag at a place. -/
def child (index : Int) (tag : String := "div") : String :=
  tag ++ ":nth-child(" ++ toString (index + 1) ++ ")"

/-- The source of the image at a place. -/
def imageSource (index : Int) : String := child index "img" ++ "[src]"

/-- The alternative text of the image at a place. -/
def imageAlt (index : Int) : String := child index "img" ++ "[alt]"

/-- What a selector says. -/
structure Parts where
  tag : Option String
  index : Option Int
  attr : Option String
  isImage : Bool
  isLink : Bool
  deriving DecidableEq, Repr

/-- The tag a selector starts with. -/
def tag? (selector : List Char) : Option String :=
  let name := selector.takeWhile isWord
  if name.isEmpty then none else some (String.ofList name)

/-- The first place in a selector, as it is written; captures its digits. -/
def place : Pattern := run "nth-child(" isDecimal ")"

/-- An attribute in brackets; captures its name. -/
def bracketed : Pattern := run "[" (· != ']') "]"

/-- The first place in a selector, as it is written. -/
def position? (selector : List Char) : Except NumeralFault (Option Nat) :=
  match place.captures selector with
  | [] => .ok none
  | ds :: _ => (digitsNumber ds).map some

/-- The first attribute of a selector. -/
def attr? (selector : List Char) : Option (List Char) :=
  (bracketed.captures selector).head?

/-- The parts of a selector. -/
def parse (selector : String) : Except NumeralFault Parts :=
  let text := selector.toList
  (position? text).map fun position =>
    { tag := tag? text
      index := position.map fun n => (n : Int) - 1
      attr := (attr? text).map String.ofList
      isImage := (word "img").occurs text || (word "picture").occurs text
      isLink := (word "a[href]").occurs text }

/-! ## Labels -/

/-- The labels of the first places. -/
def labels : List String := ["Title", "Content", "Image", "Description", "Link"]

/-- The entry of a table at an index. Below zero the index counts from the end. -/
def entryAt? {α : Type} (table : List α) (index : Int) : Option α :=
  if 0 ≤ index then table[index.toNat]?
  else if index.natAbs ≤ table.length then table[table.length - index.natAbs]?
  else none

/-- The label of a place: that of the table at its index, and a number behind the table. The index
of place 0 is below zero, and only the end of the table is checked. -/
def labelAt (position : Nat) : String :=
  let index : Int := position - 1
  (entryAt? labels index).getD ("Field " ++ toString position)

/-- The label of a selector: the author's if there is one, else that of its place, else the name of
its attribute. -/
def label (selector : String) (custom : Option String := none) : Except NumeralFault String :=
  if custom.any (· ≠ "") then .ok (custom.getD "")
  else
    (position? selector.toList).map fun position =>
      match position, attr? selector.toList with
      | some n, _ => labelAt n
      | none, some (c :: rest) => String.ofList (upper c ++ openFirstHyphen rest)
      | none, _ => "Content"

end Selector

end BlockAuthoring
