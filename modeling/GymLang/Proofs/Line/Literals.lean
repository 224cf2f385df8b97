import GymLang.Proofs.Exec.Errors
import GymLang.Proofs.Line.Faults
import GymLang.Proofs.Number.Overflow

/-!
# Numbers never fail

The executor reads numbers only when it needs them, and has an error for those that cannot be
read.  It never comes to it: all that the lexer takes for a number can be read, to infinity if
it is too large.

* `ne_invalidNumber`, `eq_expectedCommand_iff` — of two errors of lines, one never happens and
  the other says that a line starts with no word.
* `literals_never_fail` — **numbers never fail**, wherever they stand and however long they are.
-/

namespace GymLang
namespace Line

variable {line : Text} {tokens : List Token} {ctx : Context} {roll : Fin 100}

/-- Numbers of a line never fail to be read. -/
theorem ne_invalidNumber (h : Token.tokenize line = .ok tokens) (text : Text) :
    Exec.lineEffect roll ctx tokens ≠ .error (.invalidNumber text) := by
  intro herror
  obtain ⟨head, args, rfl, hcase⟩ := Exec.lineEffect_eq_error herror
  rcases hcase with ⟨-, heq⟩ | ⟨-, c, -, hblames⟩
  · cases heq
  · cases hblames with
    | number harg hkind hnone =>
      obtain ⟨x, hx⟩ := Token.readable_of_tokenize h (List.mem_cons_of_mem head harg) hkind
      exact nomatch hnone.symm.trans hx

/-- What is not a command is what a line starts with, if that is no word. -/
theorem eq_expectedCommand_iff {found : Text} :
    Exec.lineEffect roll ctx tokens = .error (.expectedCommand found) ↔
      ∃ head args, tokens = head :: args ∧ head.kind ≠ .word ∧ found = head.display := by
  constructor
  · intro herror
    obtain ⟨head, args, rfl, hcase⟩ := Exec.lineEffect_eq_error herror
    rcases hcase with ⟨hkind, heq⟩ | ⟨-, c, -, hblames⟩
    · cases heq
      exact ⟨head, args, rfl, hkind, rfl⟩
    · cases hblames
  · rintro ⟨head, args, rfl, hkind, rfl⟩
    exact Exec.lineEffect_of_not_word hkind

/-- **Numbers never fail.**  No line that can be cut into tokens fails for a number when it is
carried out, with any variables, and it fails for want of a command just if it starts with no
word.  This is since the numbers of the language, of any length, are all read, and as infinity
from half way between the largest finite number and the power of two after it. -/
theorem literals_never_fail :
    (∀ line tokens, Token.tokenize line = .ok tokens →
      (∀ t ∈ tokens, t.kind = .number → PieceKind.number.Fits t.text) ∧
      ∀ roll ctx,
        (∀ text, (Exec.run roll tokens ctx).1 ≠ .error (.invalidNumber text)) ∧
        ∀ found, (Exec.run roll tokens ctx).1 = .error (.expectedCommand found) ↔
          ∃ head args, tokens = head :: args ∧ head.kind ≠ .word ∧ found = head.display) ∧
    (∀ text, PieceKind.number.Fits text ↔ ∃ negative u n places,
      text = Number.withSign negative u ∧ Number.Spells u n places) ∧
    ∀ negative u n places, Number.Spells u n places → ∃ m,
      Number.read? (Number.withSign negative u) = some (Number.ofMagnitude negative m) ∧
        m ≤ Number.infinity ∧ (m = Number.infinity ↔ Number.overflow * 10 ^ places ≤ n) := by
  refine ⟨?_, fun text => Number.fits_number_iff, ?_⟩
  · intro line tokens h
    refine ⟨fun t ht hkind => Token.fits_of_number h ht hkind, fun roll ctx => ⟨?_, ?_⟩⟩
    · intro text
      rw [ne_eq, Exec.run_fst_eq_error_iff]
      exact ne_invalidNumber h text
    · intro found
      rw [Exec.run_fst_eq_error_iff]
      exact eq_expectedCommand_iff
  · intro negative u n places h
    exact ⟨_, Number.read?_of_spells h negative, Number.toMagnitude_le n places,
      Number.toMagnitude_eq_infinity_iff n places⟩

/-- A number of 310 digits, and a line that starts with one. -/
theorem literals_never_fail_huge :
    Token.tokenize ("REPS -1".toList ++ List.replicate 309 '0') =
        .ok [⟨.word, "REPS".toList, ⟨0, 4⟩⟩,
          ⟨.number, '-' :: '1' :: List.replicate 309 '0', ⟨5, 316⟩⟩] ∧
      (∀ ctx text, (Exec.run 0 [⟨.word, "REPS".toList, ⟨0, 4⟩⟩,
          ⟨.number, '-' :: '1' :: List.replicate 309 '0', ⟨5, 316⟩⟩] ctx).1 ≠
        .error (.invalidNumber text)) ∧
      Number.read? ('-' :: '1' :: List.replicate 309 '0') =
        some (Number.ofMagnitude true Number.infinity) ∧
      Token.tokenize "-2.50 x".toList =
        .ok [⟨.number, "-2.50".toList, ⟨0, 5⟩⟩, ⟨.word, ['x'], ⟨6, 7⟩⟩] ∧
      ∀ ctx, (Exec.run 0 [⟨.number, "-2.50".toList, ⟨0, 5⟩⟩, ⟨.word, ['x'], ⟨6, 7⟩⟩] ctx).1 =
        .error (.expectedCommand "-2.50".toList) := by
  obtain ⟨hlines, -, hread⟩ := literals_never_fail
  have hhuge : Token.tokenize ("REPS -1".toList ++ List.replicate 309 '0') =
      .ok [⟨.word, "REPS".toList, ⟨0, 4⟩⟩,
        ⟨.number, '-' :: '1' :: List.replicate 309 '0', ⟨5, 316⟩⟩] := by
    decide +kernel
  have hnumber : Token.tokenize "-2.50 x".toList =
      .ok [⟨.number, "-2.50".toList, ⟨0, 5⟩⟩, ⟨.word, ['x'], ⟨6, 7⟩⟩] := by
    decide +kernel
  refine ⟨hhuge, fun ctx => ((hlines _ _ hhuge).2 0 ctx).1, ?_, hnumber, fun ctx => ?_⟩
  · have hdigits : Text.Digits ('1' :: List.replicate 309 '0') := by
      refine ⟨List.cons_ne_nil _ _, fun c hc => ?_⟩
      rcases List.mem_cons.1 hc with rfl | hc
      · decide
      · rw [List.eq_of_mem_replicate hc]
        decide
    obtain ⟨m, hm, -, hinfinite⟩ := hread true _ _ _ (.whole hdigits)
    rw [hinfinite.2 (by decide +kernel)] at hm
    exact hm
  · exact (((hlines _ _ hnumber).2 0 ctx).2 _).2 ⟨_, _, rfl, by decide, rfl⟩

end Line
end GymLang
