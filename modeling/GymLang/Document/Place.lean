import GymLang.Text.Rows

/-!
# Places in a document

A position is a row and a column, both counted from zero, columns in UTF-16 code units.
A range runs from one position up to, and not including, another.
-/

namespace GymLang

/-- A row and a column. -/
structure Position where
  line : Nat
  character : Nat
deriving DecidableEq, Repr, Inhabited

/-- From one position up to another. -/
structure Range where
  start : Position
  stop : Position
deriving DecidableEq, Repr, Inhabited

/-- A range of columns in one row. -/
def Range.inRow (row first last : Nat) : Range := ⟨⟨row, first⟩, ⟨row, last⟩⟩

/-- The range of a whole row. -/
def Range.ofRow (row : Nat) (line : Text) : Range := inRow row 0 (Text.units line)

/-- A document, as the protocol names it.  Identifiers are ordered by their bytes, which
is the order of their characters. -/
abbrev Uri := String

/-- A range of a document. -/
structure Location where
  uri : Uri
  range : Range
deriving DecidableEq, Repr

end GymLang
