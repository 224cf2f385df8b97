import GymLang.Line.Analysis

/-!
# The command a line starts with

Editing help asks of a line only for the command that leads it.  What the answer is depends
on the first token alone (`leading_eq_ok_iff` and the lemmas before it).
-/

namespace GymLang
namespace Line

variable {line : Text} {first : Token} {args : List Token} {c : Command}

theorem leading_of_error {e : LexError} (h : Token.tokenize line = .error e) :
    leading Engine.standard line = .error (.lexical e) := by
  have hengine : Engine.standard.tokenize line = .error e := h
  simp only [leading, hengine]

theorem leading_of_unknown (h : Token.tokenize line = .ok (first :: args))
    (hkind : first.kind = .word) (hnone : Command.named? first.text = none) :
    leading Engine.standard line = .error (.unknownCommand first.text) := by
  have hengine : Engine.standard.tokenize line = .ok (first :: args) := h
  simp only [leading, hengine, hkind, hnone]

theorem leading_of_command (h : Token.tokenize line = .ok (first :: args))
    (hkind : first.kind = .word) (hsome : Command.named? first.text = some c) :
    leading Engine.standard line = .ok c := by
  have hengine : Engine.standard.tokenize line = .ok (first :: args) := h
  simp only [leading, hengine, hkind, hsome]

/-- A line is led by the command that its first token names, if that is a word. -/
theorem leading_eq_ok_iff {engine : Engine} : leading engine line = .ok c ↔
    ∃ first args, engine.tokenize line = .ok (first :: args) ∧ first.kind = .word ∧
      Command.named? first.text = some c := by
  unfold leading
  cases engine.tokenize line with
  | error e => simp
  | ok tokens =>
    cases tokens with
    | nil => simp
    | cons first args =>
      cases hkind : first.kind with
      | word => cases hnamed : Command.named? first.text <;> simp [hkind, hnamed]
      | number => simp [hkind]
      | string => simp [hkind]

end Line
end GymLang
