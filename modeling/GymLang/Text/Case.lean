import GymLang.Text.Basic
import GymLang.Text.CaseTable

/-!
# Letter case

Two ways to disregard case.  `upper` and `lower` are the full mappings of every script,
under which one character may become several.  `sameIgnoringCase` folds the letters of
ASCII and no others.

A capital sigma has a second small form at the end of a word, which `lower` does not
choose: it serves searches among keywords, and they find the same with either form
(`Command.matchesQuery_iff_lowered`).
-/

namespace GymLang
namespace Text

/-- The counterpart of a character in the first stretch that lists it, else the character
itself. -/
def shiftedBy (table : List Stretch) (c : Char) : Char :=
  match table.find? fun s =>
      s.first ≤ c.toNat && c.toNat ≤ s.last && (c.toNat - s.first) % s.step == 0 with
  | some s => Char.ofNat (c.toNat + s.shift).toNat
  | none => c

/-- The several characters a table gives for a character, else its single counterpart. -/
def caseForm (long : List (Nat × List Nat)) (table : List Stretch) (c : Char) : Text :=
  match long.find? (·.1 == c.toNat) with
  | some (_, form) => form.map Char.ofNat
  | none => [shiftedBy table c]

/-- Capital form of a character. -/
def upperForm (c : Char) : Text :=
  if c.toNat < 128 then [c.toUpper] else caseForm longCapitals capitals c

/-- Small form of a character. -/
def lowerForm (c : Char) : Text :=
  if c.toNat < 128 then [c.toLower] else caseForm longSmalls smalls c

/-- A text in capitals. -/
def upper (t : Text) : Text := t.flatMap upperForm

/-- A text in small letters. -/
def lower (t : Text) : Text := t.flatMap lowerForm

/-- Whether two texts differ at most in the case of ASCII letters. -/
def sameIgnoringCase (s t : Text) : Bool := s.map Char.toUpper == t.map Char.toUpper

end Text
end GymLang
