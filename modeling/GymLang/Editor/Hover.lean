import GymLang.Command.Guide
import GymLang.Document.Cursor

/-!
# Hovers

What is shown for the word or the quoted stretch under the cursor.  The quoted stretch
comes first, so that a string is shown as a string wherever the cursor is in it.
-/

namespace GymLang

/-- What a hover is about. -/
inductive Subject
  | command (c : Command)
  | number (text : Text)
  | string (text : Text)
  | name (text : Text)
deriving DecidableEq, Repr

namespace Subject

/-- Decimal digits of any script, with at most one point that has digits on both sides. -/
def isNumber (t : Text) : Bool :=
  let whole := t.takeWhile Text.isDecimalDigit
  match t.dropWhile Text.isDecimalDigit with
  | [] => !whole.isEmpty
  | '.' :: fraction => !whole.isEmpty && !fraction.isEmpty && fraction.all Text.isDecimalDigit
  | _ => false

/-- Whether a text starts and ends with a quote, and not with the same one. -/
def isQuoted (t : Text) : Bool := 2 ≤ t.length && t.head? == some '"' && t.getLast? == some '"'

/-- What a text is: a command, else a number, else a string, else the name of a variable. -/
def ofText (t : Text) : Subject :=
  match Command.named? t with
  | some c => command c
  | none => if isNumber t then number t else if isQuoted t then string t else name t

/-- What is shown, in markdown. -/
def markdown : Subject → Text
  | command c => c.fullDocumentation.toList
  | number t =>
    "**Number:** ".toList ++ t ++ "\n\nUse this value in your gym calculations! 💪".toList
  | string t => "**String:** ".toList ++ t ++ "\n\nPerfect for motivational messages! 🔥".toList
  | name t => "**Variable:** ".toList ++ t ++ "\n\nStore your gains in this variable! 💪".toList

end Subject

/-- A hover and the stretch of text it belongs to. -/
structure Hover where
  subject : Subject
  range : Range
deriving DecidableEq, Repr

/-- The hover at a column of a line, which is row `row`. -/
def hoverAt? (row : Nat) (line : Text) (column : Nat) : Option Hover :=
  ((Cursor.quoted? line column).or (Cursor.word? line column)).map fun r =>
    ⟨.ofText r.text, .inRow row r.start r.stop⟩

/-- The hover at a position of a text. -/
def Document.hover? (text : Text) (p : Position) : Option Hover := do
  let line ← (Text.rows text)[p.line]?
  hoverAt? p.line line p.character

end GymLang
