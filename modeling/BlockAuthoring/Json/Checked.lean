import BlockAuthoring.Json.Value

/-!
# Checked reading

A value of a type is read out of JSON part by part. What is wrong with one part does not hide what
is wrong with another: all issues are collected, in the order of the parts.
-/

namespace BlockAuthoring.Json

/-- A step from a value to a part of it. -/
inductive Step where
  | member (key : String)
  | item (index : Nat)
  /-- One of several forms that a part may have. -/
  | form (name : String)
  deriving DecidableEq, Repr

/-- What is wrong with a value. -/
inductive Mismatch where
  | missing
  | notAnObject
  | notAString
  | notAList
  | notASequence
  /-- It is none of the words of a vocabulary. -/
  | unknownWord
  /-- It is not the one word that is meant. -/
  | otherWord
  | notAFlag
  | unreadableFlag
  | notAnInteger
  | unreadableInteger
  | integerTooLong
  | fractional
  | notFinite
  | belowMinimum
  deriving DecidableEq, Repr

/-- What is wrong with a part of a value, and which part it is. -/
structure Issue where
  place : List Step
  mismatch : Mismatch
  deriving DecidableEq, Repr

/-- What reading gives: a value, or everything that is wrong. -/
inductive Checked (α : Type) where
  | ok (value : α)
  | issues (found : List Issue)
  deriving Repr

namespace Checked

variable {α β : Type}

/-- Nothing can be read, for one reason. -/
def fail (mismatch : Mismatch) : Checked α := .issues [⟨[], mismatch⟩]

/-- Changes the value that is read. -/
def map (f : α → β) : Checked α → Checked β
  | ok a => ok (f a)
  | issues found => issues found

/-- Applies a function that is read to a value that is read; the issues of both count. -/
def apply (f : Checked (α → β)) (a : Checked α) : Checked β :=
  match f, a with
  | ok f, ok a => ok (f a)
  | ok _, issues found => issues found
  | issues found, ok _ => issues found
  | issues found, issues more => issues (found ++ more)

instance : Applicative Checked where
  pure := ok
  map := map
  seq f a := apply f (a ())

/-- The same reading, seen from one step further out. -/
def under (step : Step) : Checked α → Checked α
  | ok a => ok a
  | issues found => issues (found.map fun issue => { issue with place := step :: issue.place })

/-- The value that is read, if nothing is wrong. -/
def value? : Checked α → Option α
  | ok a => some a
  | issues _ => none

end Checked

end BlockAuthoring.Json
