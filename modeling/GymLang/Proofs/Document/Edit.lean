import GymLang.Document.Edit
import GymLang.Proofs.Text.Columns
import GymLang.Proofs.Text.Lined

/-!
# Edits within a row

The rows of a text are told from its terminators; an edit finds its place by counting rows
and columns in the text itself.  The two agree (`offset_eq`): a column that lies before the
rest of a row is found just there (`offset_of_fullRows`), so an edit of a stretch of a row
puts the replacement in the place of that stretch and leaves everything else alone
(`apply_inRow`).
-/

namespace GymLang
namespace Document

open Text

/-! ## Where a column is -/

theorem columnOffset_of_terminator {c : Char} (hc : c = '\n' ∨ c = '\r') (rest : Text)
    (column : Nat) : columnOffset (c :: rest) column = 0 := by
  rcases hc with rfl | rfl <;> simp [columnOffset]

theorem columnOffset_of_ne {c : Char} (hc : ¬ (c = '\n' ∨ c = '\r')) (rest : Text)
    (column : Nat) : columnOffset (c :: rest) column =
      if column < charUnits c then 0 else columnOffset rest (column - charUnits c) + 1 := by
  obtain ⟨hfeed, hreturn⟩ := not_or.1 hc
  simp [columnOffset, hfeed, hreturn]

/-- A column past the end of a line is the end of the line. -/
theorem columnOffset_past {line : Text} (hline : Plain line) {column : Nat}
    (h : units line ≤ column) : columnOffset line column = line.length := by
  induction line generalizing column with
  | nil => rfl
  | cons c line ih =>
    obtain ⟨hc, hline⟩ := plain_cons.1 hline
    rw [units_cons] at h
    rw [columnOffset_of_ne hc, if_neg (by omega), ih hline (by omega), List.length_cons]

/-- A column within a character is the start of the character. -/
theorem columnOffset_within {before : Text} (hbefore : Plain before) {c : Char} {column : Nat}
    (hfrom : units before ≤ column) (hto : column < units before + charUnits c) (rest : Text) :
    columnOffset (before ++ c :: rest) column = before.length := by
  induction before generalizing column with
  | nil =>
    rw [units_nil, Nat.zero_add] at hto
    simp [columnOffset, hto]
  | cons b before ih =>
    obtain ⟨hb, hbefore⟩ := plain_cons.1 hbefore
    rw [units_cons] at hfrom hto
    rw [List.cons_append, columnOffset_of_ne hb, if_neg (by omega),
      ih hbefore (by omega) (by omega), List.length_cons]

theorem columnOffset_units {before : Text} (hbefore : Plain before) (rest : Text) :
    columnOffset (before ++ rest) (units before) = before.length := by
  cases rest with
  | nil => rw [List.append_nil, columnOffset_past hbefore (Nat.le_refl _)]
  | cons c rest =>
    have hc := charUnits_pos c
    exact columnOffset_within hbefore (Nat.le_refl _) (by omega) rest

/-! ## Where a row is -/

theorem offset_zero (t : Text) (column : Nat) : offset t 0 column = columnOffset t column := by
  rw [offset]

/-- A character that ends no row is in front of everything in a later row. -/
theorem offset_cons_succ {c : Char} (hc : ¬ (c = '\n' ∨ c = '\r')) (rest : Text)
    (row column : Nat) : offset (c :: rest) (row + 1) column = offset rest (row + 1) column + 1 := by
  rw [offset, if_neg hc]
  rintro rest' rfl -
  exact hc (Or.inr rfl)

/-- What can be said of the place of a column when `rest` follows a first, empty row. -/
theorem offset_of_terminated {t rest terminator line ending : Text} {above below : List FullRow}
    {column : Nat} (hfirst : columnOffset t column = 0)
    (hoffset : ∀ row, offset t (row + 1) column = offset rest row column + terminator.length)
    (ih : ∀ {above : List FullRow}, fullRows rest = above ++ ⟨line, ending⟩ :: below →
      offset rest above.length column = (ofFullRows above).length + columnOffset line column)
    (h : ⟨[], terminator⟩ :: fullRows rest = above ++ ⟨line, ending⟩ :: below) :
    offset t above.length column = (ofFullRows above).length + columnOffset line column := by
  cases above with
  | nil =>
    obtain ⟨hrow, -⟩ := List.cons.inj h
    obtain ⟨rfl, -⟩ := FullRow.mk.inj hrow
    exact (offset_zero t column).trans hfirst
  | cons f above =>
    rw [List.cons_append] at h
    obtain ⟨rfl, htail⟩ := List.cons.inj h
    rw [List.length_cons, hoffset, ih htail, ofFullRows_cons]
    simp only [List.nil_append, List.length_append]
    omega

/-- **Rows are found.**  A column of a row is behind all rows above, with their terminators,
and as far into the row as it is into the row's own text. -/
theorem offset_eq {t line ending : Text} {above below : List FullRow}
    (h : fullRows t = above ++ ⟨line, ending⟩ :: below) (column : Nat) :
    offset t above.length column = (ofFullRows above).length + columnOffset line column := by
  induction t using fullRows.induct generalizing above line column with
  | case1 =>
    cases above with
    | nil =>
      obtain ⟨hrow, -⟩ := List.cons.inj h
      obtain ⟨rfl, -⟩ := FullRow.mk.inj hrow
      rfl
    | cons f above => exact absurd (List.cons.inj h).2 (by simp)
  | case2 rest ih =>
    rw [fullRows] at h
    refine offset_of_terminated (columnOffset_of_terminator (Or.inr rfl) _ column) ?_
      (fun hrest => ih hrest column) h
    intro row
    rw [offset]
    rfl
  | case3 c rest hcrlf hc ih =>
    rw [fullRows, if_pos hc] at h
    · refine offset_of_terminated (columnOffset_of_terminator hc rest column) ?_
        (fun hrest => ih hrest column) h
      intro row
      rw [offset, if_pos hc]
      · rfl
      · exact hcrlf
    · exact hcrlf
  | case4 c rest hcrlf hc ih =>
    obtain ⟨f, fs, hrest⟩ := List.exists_cons_of_ne_nil (fullRows_ne_nil rest)
    rw [fullRows_of_ne hc, hrest, consFullRow] at h
    rw [hrest] at ih
    -- the character stands in the first row, which is or is not the one in question
    cases above with
    | nil =>
      obtain ⟨hfirst, rfl⟩ := List.cons.inj h
      obtain ⟨rfl, rfl⟩ := FullRow.mk.inj hfirst
      have hcolumn := @ih f.row [] rfl (column - charUnits c)
      rw [List.length_nil, offset_zero, ofFullRows_nil, List.length_nil, Nat.zero_add] at hcolumn
      rw [List.length_nil, offset_zero, columnOffset_of_ne hc, columnOffset_of_ne hc, hcolumn,
        ofFullRows_nil, List.length_nil, Nat.zero_add]
    | cons g above =>
      rw [List.cons_append] at h
      obtain ⟨rfl, rfl⟩ := List.cons.inj h
      have hrow := @ih line (f :: above) rfl column
      rw [List.length_cons] at hrow
      rw [List.length_cons, offset_cons_succ hc, hrow]
      simp only [ofFullRows_cons, List.cons_append, List.length_cons]
      omega

/-- The column in front of the rest `y` of a row stands behind all rows above and behind the
part `x` of the row. -/
theorem offset_of_fullRows {t x y ending : Text} {above below : List FullRow}
    (h : fullRows t = above ++ ⟨x ++ y, ending⟩ :: below) :
    offset t above.length (units x) = (ofFullRows above).length + x.length := by
  have hlined := lined_fullRows t
  rw [h] at hlined
  have hplain : Plain (x ++ y) := hlined.plain ⟨x ++ y, ending⟩ (by simp)
  rw [offset_eq h, columnOffset_units (plain_append.1 hplain).1]

/-! ## Replacing a part of a row -/

theorem splice_append (front covered back replacement : Text) :
    splice (front ++ covered ++ back) front.length (front.length + covered.length) replacement =
      front ++ replacement ++ back := by
  have htake : (front ++ covered ++ back).take front.length = front := by
    rw [List.append_assoc, List.take_left]
  have hdrop : (front ++ covered ++ back).drop (front.length + covered.length) = back := by
    rw [← List.length_append, List.drop_left]
  rw [splice, htake, hdrop]

/-- **An edit within a row.**  A change whose range bounds a part of a row puts the new
text in the place of that part. -/
theorem apply_inRow {t before covered after ending : Text} {above below : List FullRow}
    (h : fullRows t = above ++ ⟨before ++ covered ++ after, ending⟩ :: below)
    (replacement : Text) :
    Change.apply t ⟨some (Range.inRow above.length (units before) (units (before ++ covered))),
        replacement⟩ =
      ofFullRows (above ++ ⟨before ++ replacement ++ after, ending⟩ :: below) := by
  have hstart : offset t above.length (units before) = (ofFullRows above ++ before).length := by
    rw [List.append_assoc] at h
    rw [offset_of_fullRows h, List.length_append]
  have hstop : offset t above.length (units (before ++ covered)) =
      (ofFullRows above ++ before).length + covered.length := by
    rw [offset_of_fullRows h]
    simp only [List.length_append]
    omega
  have ht : t = (ofFullRows above ++ before) ++ covered ++
      (after ++ ending ++ ofFullRows below) := by
    rw [← ofFullRows_fullRows t, h]
    simp
  simp only [Change.apply, Range.inRow, hstart, hstop, Nat.max_eq_right (Nat.le_add_right _ _)]
  rw [ht, splice_append]
  simp

/-- A change of a part of a row replaces the row. -/
theorem edit_inRow {t before covered after : Text} {row : Nat}
    (hrow : (rows t)[row]? = some (before ++ covered ++ after)) (replacement : Text)
    (version version' : Int) :
    (Document.mk t version).edit
        [⟨some (Range.inRow row (units before) (units (before ++ covered))), replacement⟩]
        version' =
      ⟨replaceRow t row (before ++ replacement ++ after), version'⟩ := by
  obtain ⟨above, ending, below, h, rfl⟩ := exists_fullRows hrow
  rw [Document.edit, List.foldl_cons, List.foldl_nil, apply_inRow h, replaceRow_of_fullRows h]

end Document
end GymLang
