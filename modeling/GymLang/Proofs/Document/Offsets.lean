import GymLang.Proofs.Document.Edit

/-!
# Offsets of positions

An editor speaks of rows and columns, an edit works on offsets into the text.  Not every
row and column is one of the text, but `Document.offset` finds a place for all of them.

* `offset_in_row`, `offset_past_row`, `offset_within`, `offset_past_end` — which place.
* `offset_mono`, `offset_le_length` — positions keep their order, and none is past the end.
* `not_splitsPair_offset` — none falls between the two characters of a terminator.
-/

namespace GymLang
namespace Document

open Text

variable {t line : Text} {row column : Nat}

/-! ## Where rows start -/

/-- Characters before a row.  All rows after the last start at the end of the text. -/
def rowStart (t : Text) (row : Nat) : Nat := (ofFullRows ((fullRows t).take row)).length

theorem rowStart_of_fullRows {above below : List FullRow} {f : FullRow}
    (h : fullRows t = above ++ f :: below) : rowStart t above.length = (ofFullRows above).length := by
  rw [rowStart, h, List.take_left]

theorem rowStart_past (h : (rows t).length ≤ row) : rowStart t row = t.length := by
  rw [length_rows] at h
  rw [rowStart, List.take_of_length_le h, ofFullRows_fullRows]

/-- What stands before a row stands before every later one. -/
theorem rowStart_mono {row' : Nat} (h : row ≤ row') : rowStart t row ≤ rowStart t row' := by
  have htake : (fullRows t).take row' =
      (fullRows t).take row ++ ((fullRows t).drop row).take (row' - row) := by
    rw [← List.take_add, Nat.add_sub_cancel' h]
  rw [rowStart, rowStart, htake, ofFullRows_append, List.length_append]
  exact Nat.le_add_right _ _

theorem rowStart_le_length (t : Text) (row : Nat) : rowStart t row ≤ t.length := by
  rw [← rowStart_past (Nat.le_max_left (rows t).length row)]
  exact rowStart_mono (Nat.le_max_right _ _)

/-- A row ends before the next one starts. -/
theorem rowStart_add_length (hline : (rows t)[row]? = some line) :
    rowStart t row + line.length ≤ rowStart t (row + 1) := by
  obtain ⟨above, ending, below, h, rfl⟩ := exists_fullRows hline
  have hnext : rowStart t (above.length + 1) = (ofFullRows (above ++ [⟨line, ending⟩])).length := by
    rw [rowStart, h, List.append_cons, List.take_left' (by simp)]
  rw [rowStart_of_fullRows h, hnext, ofFullRows_append]
  simp

/-! ## Offsets of positions -/

theorem columnOffset_le_length (line : Text) (column : Nat) :
    columnOffset line column ≤ line.length := by
  induction line generalizing column with
  | nil => exact Nat.le_refl 0
  | cons c line ih =>
    rw [columnOffset]
    split
    · exact Nat.zero_le _
    · exact Nat.succ_le_succ (ih _)

theorem columnOffset_mono (line : Text) {column column' : Nat} (h : column ≤ column') :
    columnOffset line column ≤ columnOffset line column' := by
  induction line generalizing column column' with
  | nil => exact Nat.le_refl 0
  | cons c line ih =>
    by_cases hc : c = '\n' ∨ c = '\r'
    · rw [columnOffset_of_terminator hc]
      exact Nat.zero_le _
    · rw [columnOffset_of_ne hc, columnOffset_of_ne hc]
      split
      · exact Nat.zero_le _
      · rw [if_neg (by omega)]
        exact Nat.succ_le_succ (ih (by omega))

theorem offset_in_row (hline : (rows t)[row]? = some line) (column : Nat) :
    offset t row column = rowStart t row + columnOffset line column := by
  obtain ⟨above, ending, below, h, rfl⟩ := exists_fullRows hline
  rw [offset_eq h, rowStart_of_fullRows h]

/-- A row past the last is the end of the text. -/
theorem offset_past_end (h : (rows t).length ≤ row) (column : Nat) :
    offset t row column = t.length := by
  induction t, row, column using offset.induct with
  | case1 t column => exact absurd (List.length_eq_zero_iff.1 (Nat.le_zero.1 h)) (rows_ne_nil t)
  | case2 row column => rfl
  | case3 rest row column ih =>
    rw [rows, List.length_cons] at h
    rw [offset, ih (Nat.le_of_succ_le_succ h), List.length_cons, List.length_cons]
  | case4 c rest row column hcrlf hc ih =>
    rw [rows, if_pos hc, List.length_cons] at h
    · rw [offset, if_pos hc, ih (Nat.le_of_succ_le_succ h), List.length_cons]
      exact hcrlf
    · exact hcrlf
  | case5 c rest row column hcrlf hc ih =>
    rw [rows, if_neg hc, length_consRow (rows_ne_nil rest)] at h
    · rw [offset_cons_succ hc, ih h, List.length_cons]
    · exact hcrlf

/-- A column past the end of a row is the end of the row's text. -/
theorem offset_past_row (hline : (rows t)[row]? = some line) (h : units line ≤ column) :
    offset t row column = rowStart t row + line.length := by
  rw [offset_in_row hline, columnOffset_past (plain_of_rows hline) h]

/-- A column within a character is the start of the character. -/
theorem offset_within {before after : Text} {c : Char}
    (hline : (rows t)[row]? = some (before ++ c :: after)) (hfrom : units before ≤ column)
    (hto : column < units before + charUnits c) :
    offset t row column = rowStart t row + before.length := by
  have hplain : Plain (before ++ c :: after) := plain_of_rows hline
  rw [offset_in_row hline, columnOffset_within (plain_append.1 hplain).1 hfrom hto]

theorem rowStart_le_offset (t : Text) (row column : Nat) : rowStart t row ≤ offset t row column := by
  cases hline : (rows t)[row]? with
  | none =>
    rw [offset_past_end (List.getElem?_eq_none_iff.1 hline)]
    exact rowStart_le_length t row
  | some line =>
    rw [offset_in_row hline]
    exact Nat.le_add_right _ _

theorem offset_le_rowStart_succ (t : Text) (row column : Nat) :
    offset t row column ≤ rowStart t (row + 1) := by
  cases hline : (rows t)[row]? with
  | none =>
    have hpast := List.getElem?_eq_none_iff.1 hline
    have hnext := rowStart_past (Nat.le_succ_of_le hpast)
    exact Nat.le_of_eq ((offset_past_end hpast column).trans hnext.symm)
  | some line =>
    have hcolumn := columnOffset_le_length line column
    have hnext := rowStart_add_length hline
    rw [offset_in_row hline]
    omega

/-- **Positions keep their order.** -/
theorem offset_mono {row' column' : Nat} (h : row < row' ∨ row = row' ∧ column ≤ column') :
    offset t row column ≤ offset t row' column' := by
  rcases h with h | ⟨rfl, h⟩
  · calc offset t row column ≤ rowStart t (row + 1) := offset_le_rowStart_succ t row column
      _ ≤ rowStart t row' := rowStart_mono h
      _ ≤ offset t row' column' := rowStart_le_offset t row' column'
  · cases hline : (rows t)[row]? with
    | none =>
      have hpast := List.getElem?_eq_none_iff.1 hline
      have hend := offset_past_end hpast column'
      exact Nat.le_of_eq ((offset_past_end hpast column).trans hend.symm)
    | some line =>
      rw [offset_in_row hline, offset_in_row hline]
      exact Nat.add_le_add_left (columnOffset_mono line h) _

theorem offset_le_length (t : Text) (row column : Nat) : offset t row column ≤ t.length :=
  Nat.le_trans (offset_le_rowStart_succ t row column) (rowStart_le_length t (row + 1))

/-! ## Offsets within a terminator -/

/-- An offset between a carriage return and the line feed that belongs to it. -/
def SplitsPair (t : Text) (i : Nat) : Prop := 0 < i ∧ t[i - 1]? = some '\r' ∧ t[i]? = some '\n'

instance (t : Text) (i : Nat) : Decidable (SplitsPair t i) := by
  unfold SplitsPair
  infer_instance

theorem splitsPair_cons {c : Char} {i : Nat} :
    SplitsPair (c :: t) (i + 1) ↔
      (i = 0 ∧ c = '\r' ∧ t.head? = some '\n') ∨ SplitsPair t i := by
  cases i with
  | zero => simp [SplitsPair, List.head?_eq_getElem?]
  | succ i => simp [SplitsPair]

/-- An offset that splits no pair of the rest splits none of the text. -/
theorem splitsPair_append {front : Text} {i : Nat} (h : SplitsPair t i) :
    SplitsPair (front ++ t) (front.length + i) := by
  induction front with
  | nil => simpa using h
  | cons c front ih =>
    rw [List.cons_append, List.length_cons, Nat.succ_add, splitsPair_cons]
    exact .inr ih

theorem not_splitsPair_columnOffset (t : Text) (column : Nat) :
    ¬ SplitsPair t (columnOffset t column) := by
  induction t generalizing column with
  | nil => simp [SplitsPair, columnOffset]
  | cons c t ih =>
    rw [columnOffset]
    split
    · simp [SplitsPair]
    · rename_i hc
      rw [splitsPair_cons]
      rintro (⟨-, rfl, -⟩ | h)
      · exact hc (Or.inr (Or.inl rfl))
      · exact ih _ h

/-- **No position is within a terminator.** -/
theorem not_splitsPair_offset (t : Text) (row column : Nat) :
    ¬ SplitsPair t (offset t row column) := by
  induction t, row, column using offset.induct with
  | case1 t column =>
    rw [offset_zero]
    exact not_splitsPair_columnOffset t column
  | case2 row column => simp [SplitsPair, offset]
  | case3 rest row column ih =>
    rw [offset, splitsPair_cons, splitsPair_cons]
    rintro (⟨h, -⟩ | ⟨-, h, -⟩ | h)
    · exact absurd h (Nat.succ_ne_zero _)
    · exact absurd h (by decide)
    · exact ih h
  | case4 c rest row column hcrlf hc ih =>
    rw [offset, if_pos hc, splitsPair_cons]
    · rintro (⟨-, rfl, hhead⟩ | h)
      · obtain ⟨rest', rfl⟩ := List.head?_eq_some_iff.1 hhead
        exact hcrlf rest' rfl rfl
      · exact ih h
    · exact hcrlf
  | case5 c rest row column hcrlf hc ih =>
    rw [offset_cons_succ hc, splitsPair_cons]
    rintro (⟨-, rfl, -⟩ | h)
    · exact hc (Or.inr rfl)
    · exact ih h

end Document
end GymLang
