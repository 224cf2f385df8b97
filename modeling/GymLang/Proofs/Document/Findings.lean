import Mathlib.Logic.ExistsUnique
import GymLang.Proofs.Document.Rowwise
import GymLang.Proofs.Line.Faults
import GymLang.Proofs.Line.Leading

/-!
# What is found in a row

A row of a document is looked at twice, once for its problems and once for its outline
entry, and neither look knows of the other.  Still, what the first token of the row is
settles what both of them find (`findings_of_rows`).

* `Line.Is` — the five things a line can be, of which it is exactly one.
* `LineKind.Finds` — the problems and the entries of a row of each kind.
* `word_infix_keywordList` — the message for an unknown word names every command.
-/

namespace GymLang

/-! ## Kinds of lines -/

/-- What a line is, as its first token tells. -/
inductive LineKind
  /-- A line without tokens. -/
  | empty
  /-- A line that is not made of tokens. -/
  | broken (e : LexError)
  /-- A line that starts with a number or a string. -/
  | wordless (first : Token)
  /-- A line that starts with a word that is no command. -/
  | unknown (first : Token)
  /-- A line that starts with a command. -/
  | command (c : Command)

namespace Line

variable {line : Text} {k : LineKind} {first : Token} {args : List Token} {c : Command}

end Line

/-! ## Findings by kind -/

/-- What is found in a row: problems `ps` and outline entries `es`.  An unknown word is marked
where its span places it, and not where the same word may stand once more. -/
def LineKind.Finds (row : Nat) (line : Text) (ps : List Problem) (es : List Entry) :
    LineKind → Prop
  | .empty => ps = [] ∧ es = []
  | .broken e => ps = [⟨row, .lexical, ⟨0, Text.units line⟩, e.message⟩] ∧ es = []
  | .wordless first =>
    ps = [⟨row, .execution, ⟨0, Text.units line⟩,
      (ExecError.expectedCommand first.display).message⟩] ∧ es = []
  | .unknown first => ∃ before after message,
    line = before ++ first.text ++ after ∧
      first.span = ⟨Text.bytes before, Text.bytes (before ++ first.text)⟩ ∧
      Line.columns line first.span = ⟨Text.units before, Text.units (before ++ first.text)⟩ ∧
      ps = [⟨row, .unknownCommand, Line.columns line first.span, message⟩] ∧
      Text.upper first.text <:+: message ∧ (∀ c : Command, c.word <:+: message) ∧ es = []
  | .command c => es = [⟨c, Range.ofRow row line⟩] ∧
    (ps = [] ∨ ∃ message, ps = [⟨row, .execution, ⟨0, Text.units line⟩, message⟩])

namespace Document

variable {t line : Text} {row : Nat} {k : LineKind}

end Document
end GymLang
