import GymLang.Text.Rows

/-!
# Rows with their terminators

`Text.rows` drops what stands between two rows.  Here `fullRows` keeps it: each row comes
with the terminator that follows it, and the last one with none.  Nothing of a text is
lost that way (`ofFullRows_fullRows`), and without their terminators the full rows are the
rows (`map_row_fullRows`).  `replaceRow` says what it is to change a single row: the other
rows and all terminators stay as they are.
-/

namespace GymLang
namespace Text

/-! ## Full rows -/

/-- A row and the terminator that follows it, which is empty after the last row. -/
structure FullRow where
  row : Text
  ending : Text
deriving DecidableEq, Repr

/-- Puts a character in front of the first row. -/
def consFullRow (c : Char) : List FullRow → List FullRow
  | [] => [⟨[c], []⟩]
  | f :: fs => ⟨c :: f.row, f.ending⟩ :: fs

/-- The rows of a text with their terminators. -/
def fullRows : Text → List FullRow
  | [] => [⟨[], []⟩]
  | '\r' :: '\n' :: rest => ⟨[], ['\r', '\n']⟩ :: fullRows rest
  | c :: rest =>
    if c = '\n' ∨ c = '\r' then ⟨[], [c]⟩ :: fullRows rest else consFullRow c (fullRows rest)

/-- The text that full rows make up. -/
def ofFullRows (fs : List FullRow) : Text := fs.flatMap fun f => f.row ++ f.ending

/-- A text in which one row is another one. -/
def replaceRow (t : Text) (row : Nat) (new : Text) : Text :=
  ofFullRows ((fullRows t).modify row fun f => { f with row := new })

@[simp] theorem ofFullRows_nil : ofFullRows [] = [] := rfl

@[simp] theorem ofFullRows_cons (f : FullRow) (fs : List FullRow) :
    ofFullRows (f :: fs) = f.row ++ f.ending ++ ofFullRows fs := rfl

@[simp] theorem ofFullRows_append (fs gs : List FullRow) :
    ofFullRows (fs ++ gs) = ofFullRows fs ++ ofFullRows gs :=
  List.flatMap_append

theorem fullRows_ne_nil (t : Text) : fullRows t ≠ [] := by
  fun_cases fullRows t with
  | case1 => simp
  | case2 rest => simp
  | case3 c rest _ h => simp
  | case4 c rest _ h => cases fullRows rest <;> simp [consFullRow]

theorem length_consRow {lines : List Text} (h : lines ≠ []) (c : Char) :
    (consRow c lines).length = lines.length := by
  cases lines with
  | nil => exact absurd rfl h
  | cons line lines => rfl

theorem map_row_consFullRow (c : Char) (fs : List FullRow) :
    (consFullRow c fs).map FullRow.row = consRow c (fs.map FullRow.row) := by
  cases fs <;> rfl

theorem ofFullRows_consFullRow (c : Char) (fs : List FullRow) :
    ofFullRows (consFullRow c fs) = c :: ofFullRows fs := by
  cases fs <;> simp [consFullRow]

/-- Without their terminators the full rows of a text are its rows. -/
theorem map_row_fullRows (t : Text) : (fullRows t).map FullRow.row = rows t := by
  induction t using fullRows.induct with
  | case1 => rfl
  | case2 rest ih => simp only [fullRows, rows, List.map_cons, ih]
  | case3 c rest hcrlf h ih =>
    rw [fullRows, if_pos h, rows, if_pos h, List.map_cons, ih]
    all_goals exact hcrlf
  | case4 c rest hcrlf h ih =>
    rw [fullRows, if_neg h, rows, if_neg h, map_row_consFullRow, ih]
    all_goals exact hcrlf

/-- **Nothing is lost.**  The full rows of a text make up the text. -/
theorem ofFullRows_fullRows (t : Text) : ofFullRows (fullRows t) = t := by
  induction t using fullRows.induct with
  | case1 => rfl
  | case2 rest ih => simp [fullRows, ih]
  | case3 c rest hcrlf h ih =>
    rw [fullRows, if_pos h, ofFullRows_cons, ih]
    · rfl
    · exact hcrlf
  | case4 c rest hcrlf h ih =>
    rw [fullRows, if_neg h, ofFullRows_consFullRow, ih]
    exact hcrlf

theorem length_rows (t : Text) : (rows t).length = (fullRows t).length := by
  rw [← map_row_fullRows, List.length_map]

/-- A row of a text among its full rows. -/
theorem exists_fullRows {t line : Text} {row : Nat} (hline : (rows t)[row]? = some line) :
    ∃ above ending below, fullRows t = above ++ ⟨line, ending⟩ :: below ∧ above.length = row := by
  rw [← map_row_fullRows, List.getElem?_map, Option.map_eq_some_iff] at hline
  obtain ⟨f, hf, rfl⟩ := hline
  obtain ⟨hrow, hf⟩ := List.getElem?_eq_some_iff.1 hf
  refine ⟨(fullRows t).take row, f.ending, (fullRows t).drop (row + 1), ?_, ?_⟩
  · rw [← hf, List.getElem_cons_drop, List.take_append_drop]
  · exact List.length_take_of_le (Nat.le_of_lt hrow)

end Text
end GymLang
