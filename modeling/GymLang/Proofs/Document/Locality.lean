import GymLang.Proofs.Document.Edit
import GymLang.Proofs.Document.Rowwise

/-!
# Edits are local

A change within a row, by a text without terminators, changes that row and no other, and
so what is found in the other rows stays as it was (`edit_stays_in_row`).

There is one exception: a row that is all there is between a lone carriage return and a
lone line feed.  If nothing of it is left the two are one terminator, and the row is gone
(`rows_replaceRow_nil`).
-/

namespace GymLang
namespace Document

open Text

variable {t before covered after replacement : Text} {row : Nat}

/-- **An edit stays in its row.**  A change of a part of a row, by a text without
terminators, leaves all other rows as they are, and with them the problems and outline
entries that are found there; in the row itself is found what the new line gives.  Only an
empty row between a lone carriage return and a lone line feed does not stay. -/
theorem edit_stays_in_row (engine : Engine) (version version' : Int)
    (hrow : (rows t)[row]? = some (before ++ covered ++ after)) (hplain : Plain replacement) :
    ∃ u, (Document.mk t version).edit
          [⟨some (Range.inRow row (units before) (units (before ++ covered))), replacement⟩]
          version' = ⟨u, version'⟩ ∧
      (¬ (before ++ replacement ++ after = [] ∧ KeepsApart t row) →
        rows u = (rows t).set row (before ++ replacement ++ after) ∧
        (problems engine u).filter (·.row ≠ row) = (problems engine t).filter (·.row ≠ row) ∧
        (problems engine u).filter (·.row = row) =
          rowProblems engine row (before ++ replacement ++ after) ∧
        (outline engine u).filter (·.range.start.line ≠ row) =
          (outline engine t).filter (·.range.start.line ≠ row) ∧
        (outline engine u).filter (·.range.start.line = row) =
          rowEntries engine row (before ++ replacement ++ after)) ∧
      (before ++ replacement ++ after = [] ∧ KeepsApart t row →
        rows u = (rows t).eraseIdx row) := by
  refine ⟨_, edit_inRow hrow replacement version version', fun hapart => ?_, ?_⟩
  · have hline : Plain (before ++ covered ++ after) := plain_of_rows hrow
    have hnew : Plain (before ++ replacement ++ after) := by
      simp only [plain_append] at hline ⊢
      exact ⟨⟨hline.1.1, hplain⟩, hline.2⟩
    have hrows := rows_replaceRow hrow hnew hapart
    have hhere : (rows (replaceRow t row (before ++ replacement ++ after)))[row]? =
        some (before ++ replacement ++ after) := by
      rw [hrows, List.getElem?_set_self (List.getElem?_eq_some_iff.1 hrow).1]
    exact ⟨hrows, problems_elsewhere engine hrows, problems_at engine hhere,
      outline_elsewhere engine hrows, outline_at engine hhere⟩
  · rintro ⟨hempty, hapart⟩
    rw [hempty, rows_replaceRow_nil hapart]

/-- Of a row between a carriage return and a line feed one character is left. -/
theorem edit_stays_in_row_left :
    ∃ u, (Document.mk "FLIP\rab\nFLOP".toList 1).edit [⟨some (Range.inRow 1 1 2), []⟩] 2 =
        ⟨u, 2⟩ ∧
      rows u = ["FLIP".toList, ['a'], "FLOP".toList] ∧
      (problems Engine.standard u).filter (·.row ≠ 1) =
        (problems Engine.standard "FLIP\rab\nFLOP".toList).filter (·.row ≠ 1) := by
  have hrow : (rows "FLIP\rab\nFLOP".toList)[1]? = some (['a'] ++ ['b'] ++ []) := by decide
  obtain ⟨u, hedit, hstays, -⟩ := edit_stays_in_row Engine.standard 1 2 hrow plain_nil
  obtain ⟨hrows, hproblems, -⟩ := hstays fun h => nomatch h.1
  exact ⟨u, hedit, hrows, hproblems⟩

end Document
end GymLang
