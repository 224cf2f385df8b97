import GymLang.Command.Guide
import GymLang.Document.Place
import GymLang.Line.Analysis

/-!
# Outlines

The outline of a document has an entry for each row that starts with a command.  The same
entries answer searches over documents by a part of the keyword, and the first of a
command is what its definition is taken to be.
-/

namespace GymLang

/-- A row that starts with a command. -/
structure Entry where
  command : Command
  range : Range
deriving DecidableEq, Repr

namespace Document

/-- The outline of rows of which the first has number `row`. -/
def outlineFrom (engine : Engine) (row : Nat) : List Text → List Entry
  | [] => []
  | line :: rest =>
    match Line.leading engine line with
    | .ok c => ⟨c, Range.ofRow row line⟩ :: outlineFrom engine (row + 1) rest
    | .error _ => outlineFrom engine (row + 1) rest

/-- The outline of a text. -/
def outline (engine : Engine) (text : Text) : List Entry :=
  outlineFrom engine 0 (Text.rows text)

end Document

/-- An entry found in a document. -/
structure Found where
  uri : Uri
  entry : Entry
deriving DecidableEq, Repr

/-- Whether a text occurs within another. -/
def Text.occursIn (part : Text) : Text → Bool
  | [] => part.isEmpty
  | c :: rest => part.isPrefixOf (c :: rest) || occursIn part rest

/-- Whether a search asks for a command: its text, in small letters, is a part of the
keyword in small letters. -/
def Command.matchesQuery (query : Text) (c : Command) : Bool :=
  Text.occursIn (Text.lower query) (Text.lower c.word)

/-- The outline entries of documents that a search asks for. -/
def Document.search (engine : Engine) (query : Text) (documents : List (Uri × Text)) :
    List Found :=
  documents.flatMap fun (uri, text) =>
    ((outline engine text).filter (·.command.matchesQuery query)).map (Found.mk uri)

end GymLang
