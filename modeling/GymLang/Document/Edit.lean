import GymLang.Document.Place

/-!
# Editing a document

An editor reports a change either as a whole new text or as a replacement for a range.
`offset` finds the character a position stands before, and is defined for every position:
a row past the last is the end of the text, a column past the end of its row is the end of
that row, and a column inside a character of two code units is its start.
-/

namespace GymLang
namespace Document

/-- Characters of the first row that lie before a column. -/
def columnOffset : Text → Nat → Nat
  | [], _ => 0
  | c :: rest, column =>
    if c = '\n' ∨ c = '\r' ∨ column < Text.charUnits c then 0
    else columnOffset rest (column - Text.charUnits c) + 1

/-- Characters of a text that lie before a row and column. -/
def offset : Text → Nat → Nat → Nat
  | t, 0, column => columnOffset t column
  | [], _ + 1, _ => 0
  | '\r' :: '\n' :: rest, row + 1, column => offset rest row column + 2
  | c :: rest, row + 1, column =>
    if c = '\n' ∨ c = '\r' then offset rest row column + 1
    else offset rest (row + 1) column + 1

/-- Puts a replacement in the place of the characters from `start` to `stop`. -/
def splice (t : Text) (start stop : Nat) (replacement : Text) : Text :=
  t.take start ++ replacement ++ t.drop stop

/-- A change of a text. -/
structure Change where
  /-- What is replaced, the whole text if absent. -/
  range : Option Range
  text : Text
deriving DecidableEq, Repr

/-- The text after a change.  A range that ends before it starts is empty at its start. -/
def Change.apply (t : Text) (change : Change) : Text :=
  match change.range with
  | none => change.text
  | some r =>
    let start := offset t r.start.line r.start.character
    splice t start (max start (offset t r.stop.line r.stop.character)) change.text

end Document

/-- An open document. -/
structure Document where
  text : Text
  version : Int
deriving DecidableEq, Repr

/-- A document after changes, each of the text the earlier ones have left. -/
def Document.edit (d : Document) (changes : List Document.Change) (version : Int) : Document :=
  ⟨changes.foldl Document.Change.apply d.text, version⟩

end GymLang
