import GymLang.Document.Problems
import GymLang.Editor.Definition
import GymLang.Editor.Hover
import GymLang.Proofs.Text.Endings

/-!
# Terminators make no difference

Everything an editor is told of a document comes from its rows, and the rows of a text are
what is left of it without the terminators.  So it does not matter how the rows end.

* `same_answers` — texts with the same rows get the same answers.
* `endings_interchangeable` — **the three ways to end a row are interchangeable**: rows and
  terminators make up the text, in one way only, and other terminators change no answer.
-/

namespace GymLang
namespace Document

open Text

variable {t u : Text}

/-- Two texts of which an editor is told the same. -/
structure SameAnswers (t u : Text) : Prop where
  problems : ∀ engine, Document.problems engine t = Document.problems engine u
  outline : ∀ engine, Document.outline engine t = Document.outline engine u
  definition : ∀ engine p, definition? engine t p = definition? engine u p
  hover : ∀ p, hover? t p = hover? u p

/-- **Texts with the same rows get the same answers.** -/
theorem same_answers (h : rows t = rows u) : SameAnswers t u where
  problems engine := by rw [Document.problems, h, ← Document.problems]
  outline engine := by rw [Document.outline, h, ← Document.outline]
  definition engine p := by rw [definition?, h, ← definition?]
  hover p := by rw [hover?, h, ← hover?]

/-- **The three ways to end a row are interchangeable.**  A text has one row or more, none of
them with a line feed or a carriage return in it, and there is one way only to put a
terminator between any two that gives the text back; there a carriage return stands alone
only where no line feed follows.  Any rows are the rows of the text they make up with the
same terminator between any two, whichever of the three it is.  So with that terminator for
all of its own a text has the same problems, the same outline, and the same definitions and
hovers at all positions. -/
theorem endings_interchangeable :
    (∀ t, rows t ≠ [] ∧ (∀ line ∈ rows t, '\n' ∉ line ∧ '\r' ∉ line) ∧
      ∃ fs, fs.map FullRow.row = rows t ∧ ofFullRows fs = t ∧ Lined fs ∧
        (∀ gs, Lined gs → ofFullRows gs = t → gs = fs) ∧
        ∀ above line below, fs = above ++ ⟨line, ['\r']⟩ :: below →
          (ofFullRows below).head? ≠ some '\n') ∧
    (∀ lines ending, lines ≠ [] → (∀ line ∈ lines, '\n' ∉ line ∧ '\r' ∉ line) →
      IsTerminator ending → rows (ending.intercalate lines) = lines) ∧
    ∀ t ending, IsTerminator ending →
      withEnding ending t = ending.intercalate (rows t) ∧ SameAnswers (withEnding ending t) t := by
  refine ⟨fun t => ⟨rows_ne_nil t, ?_, ?_⟩, ?_, fun t ending hending => ⟨?_, ?_⟩⟩
  · exact fun line hline => plain_iff.1 (plain_of_mem_rows hline)
  · have hlined := lined_fullRows t
    refine ⟨fullRows t, map_row_fullRows t, ofFullRows_fullRows t, hlined, ?_, ?_⟩
    · rintro gs hgs rfl
      exact (fullRows_ofFullRows hgs).symm
    · intro above line below hfs
      exact Lined.head?_ne_feed (hfs ▸ hlined)
  · intro lines ending hlines hplain hending
    exact rows_intercalate hlines (fun line hline => plain_iff.2 (hplain line hline)) hending
  · exact withEnding_eq_intercalate ending t
  · exact same_answers (rows_withEnding t hending)

/-- A text that ends its rows in all three ways, and the same with carriage returns only. -/
theorem endings_interchangeable_mixed :
    rows "FLIP\r\n\n\rx 1".toList = ["FLIP".toList, [], [], "x 1".toList] ∧
      rows "FLIP\r\r\rx 1".toList = ["FLIP".toList, [], [], "x 1".toList] ∧
      problems Engine.standard "FLIP\r\r\rx 1".toList =
        problems Engine.standard "FLIP\r\n\n\rx 1".toList ∧
      hover? "FLIP\r\r\rx 1".toList ⟨3, 2⟩ = some ⟨.number ['1'], .inRow 3 2 3⟩ := by
  have hreturn : IsTerminator ['\r'] := .inr (.inl rfl)
  have hrows : rows "FLIP\r\n\n\rx 1".toList = ["FLIP".toList, [], [], "x 1".toList] := by
    decide +kernel
  have hnew : withEnding ['\r'] "FLIP\r\n\n\rx 1".toList = "FLIP\r\r\rx 1".toList := by
    decide +kernel
  obtain ⟨hplain, hjoin, hsame⟩ := endings_interchangeable
  have hanswers := (hsame "FLIP\r\n\n\rx 1".toList ['\r'] hreturn).2
  rw [hnew] at hanswers
  refine ⟨hrows, ?_, hanswers.problems _, ?_⟩
  · refine hjoin ["FLIP".toList, [], [], "x 1".toList] ['\r'] (by decide) ?_ hreturn
    exact hrows ▸ (hplain "FLIP\r\n\n\rx 1".toList).2.1
  · rw [hanswers.hover]
    decide +kernel

end Document
end GymLang
