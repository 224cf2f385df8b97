import GymLang.Line.Engine

/-!
# What is said about a line

A line is looked at on its own.  `analyze` lists its faults: a line that has no tokens has
that fault and no other, and any other line may start with a word that is no command and
may fail when it is carried out with no variable set.  `leading` asks only for the command
a line starts with, and never fails.
-/

namespace GymLang

/-- The stages at which a line can be at fault. -/
inductive FaultKind
  | lexical
  | unknownCommand
  | execution
deriving DecidableEq, Repr

/-- A fault of a line, with the columns it covers. -/
structure Fault where
  kind : FaultKind
  columns : Span
  message : Text
deriving DecidableEq

/-- What there is to know about a line. -/
structure Analysis where
  /-- The tokens, none if the line has a lexical fault. -/
  tokens : List Token
  /-- The command the line starts with. -/
  command : Option Command
  /-- The faults, in the order of the stages. -/
  faults : List Fault

namespace Line

/-- The columns of a whole line. -/
def whole (line : Text) : Span := ⟨0, Text.units line⟩

/-- The columns of a stretch of bytes. -/
def columns (line : Text) (s : Span) : Span :=
  ⟨Text.columnOfByte line s.start, Text.columnOfByte line s.stop⟩

/-- Every keyword, with commas between them. -/
def keywordList : Text := ", ".toList.intercalate (Command.all.map Command.word)

/-- Message for a first word that is no command. -/
def unknownCommandMessage (w : Text) : Text :=
  "Unknown command \"".toList ++ Text.upper w ++ "\". Available commands: ".toList ++ keywordList

/-- The fault of a first token that names no command. -/
def unknownCommand? (line : Text) (first : Token) : Option Fault :=
  if first.kind = .word ∧ Command.named? first.text = none then
    some ⟨.unknownCommand, columns line first.span, unknownCommandMessage first.text⟩
  else none

/-- The fault of a line that fails with no variable set. -/
def execution? (engine : Engine) (line : Text) (tokens : List Token) : Option Fault :=
  match (engine.exec tokens ∅).1 with
  | .ok _ => none
  | .error e => some ⟨.execution, whole line, e.message⟩

/-- The command a token names. -/
def commandOf? (first : Token) : Option Command :=
  if first.kind = .word then Command.named? first.text else none

/-- Analyzes a line on its own. -/
def analyze (engine : Engine) (line : Text) : Analysis :=
  match engine.tokenize line with
  | .error e => ⟨[], none, [⟨.lexical, whole line, e.message⟩]⟩
  | .ok [] => ⟨[], none, []⟩
  | .ok (first :: args) =>
    ⟨first :: args, commandOf? first,
      (unknownCommand? line first).toList ++ (execution? engine line (first :: args)).toList⟩

/-- Why a line does not start with a command. -/
inductive Skip
  | empty
  | notAWord
  | unknownCommand (word : Text)
  | lexical (error : LexError)
deriving DecidableEq

/-- The command a line starts with, or why there is none. -/
def leading (engine : Engine) (line : Text) : Except Skip Command :=
  match engine.tokenize line with
  | .error e => .error (.lexical e)
  | .ok [] => .error .empty
  | .ok (first :: _) =>
    match first.kind with
    | .word =>
      match Command.named? first.text with
      | some c => .ok c
      | none => .error (.unknownCommand first.text)
    | _ => .error .notAWord

end Line
end GymLang
