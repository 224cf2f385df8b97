import GymLang.Document.Place
import GymLang.Line.Analysis

/-!
# Problems of a document

The faults of all rows of a document, in the order of the rows.  No row has a say in what
is found in another.
-/

namespace GymLang

/-- A fault and the row it is in. -/
structure Problem where
  row : Nat
  fault : Fault
deriving DecidableEq

/-- Where a problem is. -/
def Problem.range (p : Problem) : Range :=
  Range.inRow p.row p.fault.columns.start p.fault.columns.stop

namespace Document

/-- The problems of rows of which the first has number `row`. -/
def problemsFrom (engine : Engine) (row : Nat) : List Text → List Problem
  | [] => []
  | line :: rest =>
    (Line.analyze engine line).faults.map (Problem.mk row) ++ problemsFrom engine (row + 1) rest

/-- The problems of a text. -/
def problems (engine : Engine) (text : Text) : List Problem :=
  problemsFrom engine 0 (Text.rows text)

end Document
end GymLang
