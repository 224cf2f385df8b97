import GymLang.Document.Cursor
import GymLang.Document.Outline

/-!
# Definitions

A command is declared nowhere in a document, so its definition is taken to be the first
row that starts with it.  Variables and other words have none.
-/

namespace GymLang
namespace Document

/-- The first of some rows that starts with a command; the first row has number `row`. -/
def firstUse? (engine : Engine) (c : Command) (row : Nat) : List Text → Option Range
  | [] => none
  | line :: rest =>
    match Line.leading engine line with
    | .ok d => if d = c then some (Range.ofRow row line) else firstUse? engine c (row + 1) rest
    | .error _ => firstUse? engine c (row + 1) rest

/-- The definition of the command at a position of a text. -/
def definition? (engine : Engine) (text : Text) (p : Position) : Option Range := do
  let line ← (Text.rows text)[p.line]?
  let word ← Cursor.word? line p.character
  let c ← Command.named? word.text
  firstUse? engine c 0 (Text.rows text)

end Document
end GymLang
