import GymLang.Document.Place
import GymLang.Token.Lexer

/-!
# What the cursor is on

A cursor is on a word or on a quoted stretch of a line when its column lies between the
two ends, both included.  `wordRuns` and `quotedRuns` list what there is to be on, with
columns, and the first that contains the cursor is the one meant.
-/

namespace GymLang

/-- A stretch of a line and the column it starts at. -/
structure Run where
  start : Nat
  text : Text
deriving DecidableEq, Repr

/-- The column just past a stretch. -/
def Run.stop (r : Run) : Nat := r.start + Text.units r.text

/-- Whether a column lies on a stretch, its two ends included. -/
def Run.touches (r : Run) (column : Nat) : Bool := r.start ≤ column && column ≤ r.stop

namespace Cursor

/-- The longest stretches of letters, digits and underscores, from a column on.  `word` is
what has been read of the stretch in progress. -/
def wordRunsFrom (column : Nat) (word : Text) : Text → List Run
  | [] => if word.isEmpty then [] else [⟨column, word⟩]
  | c :: rest =>
    if Token.isWordPart c then wordRunsFrom column (word ++ [c]) rest
    else
      (if word.isEmpty then [] else [⟨column, word⟩]) ++
        wordRunsFrom (column + Text.units word + Text.charUnits c) [] rest

/-- The longest stretches of letters, digits and underscores of a line. -/
def wordRuns (line : Text) : List Run := wordRunsFrom 0 [] line

/-- The quoted stretches from a column on.  `quoted` is what has been read since the
opening quote, that included; there is none between quotes that pair up. -/
def quotedRunsFrom (column : Nat) : Option Text → Text → List Run
  | _, [] => []
  | none, c :: rest =>
    if c = '"' then quotedRunsFrom column (some [c]) rest
    else quotedRunsFrom (column + Text.charUnits c) none rest
  | some quoted, c :: rest =>
    if c = '"' then
      ⟨column, quoted ++ [c]⟩ :: quotedRunsFrom (column + Text.units (quoted ++ [c])) none rest
    else quotedRunsFrom column (some (quoted ++ [c])) rest

/-- The quoted stretches of a line, quotes included.  Quotes pair up from left to right,
and a last one without partner quotes nothing. -/
def quotedRuns (line : Text) : List Run := quotedRunsFrom 0 none line

/-- The word the cursor is on. -/
def word? (line : Text) (column : Nat) : Option Run := (wordRuns line).find? (·.touches column)

/-- The quoted stretch the cursor is on. -/
def quoted? (line : Text) (column : Nat) : Option Run :=
  (quotedRuns line).find? (·.touches column)

end Cursor
end GymLang
