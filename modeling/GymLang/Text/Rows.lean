import GymLang.Text.Basic

/-!
# Rows

A text is cut into rows at every line feed, carriage return, or carriage return with its
line feed.  The terminator belongs to no row, and a text that ends with one has an empty
last row, so there is always at least one row.
-/

namespace GymLang
namespace Text

/-- Puts a character in front of the first row. -/
def consRow (c : Char) : List Text → List Text
  | [] => [[c]]
  | row :: rows => (c :: row) :: rows

/-- The rows of a text, without their terminators. -/
def rows : Text → List Text
  | [] => [[]]
  | '\r' :: '\n' :: rest => [] :: rows rest
  | c :: rest => if c = '\n' ∨ c = '\r' then [] :: rows rest else consRow c (rows rest)

theorem rows_ne_nil (t : Text) : rows t ≠ [] := by
  fun_cases rows t <;> simp_all [consRow]
  split <;> simp

end Text
end GymLang
