import GymLang.Proofs.Text.Lined

/-!
# Changing the terminators of a text

There are three ways to end a row, and a text may use them in any mixture.  Which ones it
uses makes no difference to its rows, so all of them can be replaced by one.

* `terminated` — rows that all end in the same way, but for the last.
* `rows_intercalate` — **rows put together are the rows of what results**, whatever
  terminator stands between them.
* `withEnding_eq_intercalate` — a text with all terminators replaced is its rows put together.
* `rows_withEnding` — and so its rows are the same.
-/

namespace GymLang
namespace Text

variable {t ending : Text} {lines : List Text}

/-! ## Rows put together -/

/-- Rows with the same terminator after each of them but the last. -/
def terminated (ending : Text) : List Text → List FullRow
  | [] => []
  | [line] => [⟨line, []⟩]
  | line :: next :: lines => ⟨line, ending⟩ :: terminated ending (next :: lines)

theorem ofFullRows_terminated (ending : Text) (lines : List Text) :
    ofFullRows (terminated ending lines) = ending.intercalate lines := by
  induction lines with
  | nil => rfl
  | cons line lines ih =>
    cases lines with
    | nil => simp [terminated]
    | cons next lines => rw [terminated, ofFullRows_cons, ih, List.intercalate_cons_cons]

theorem map_row_terminated (ending : Text) (lines : List Text) :
    (terminated ending lines).map FullRow.row = lines := by
  induction lines with
  | nil => rfl
  | cons line lines ih =>
    cases lines with
    | nil => rfl
    | cons next lines => rw [terminated, List.map_cons, ih]

/-- A carriage return is never followed by a lone line feed, since all rows end alike. -/
theorem head?_terminated_ne (lines : List Text) :
    (terminated ['\r'] lines).head? ≠ some ⟨[], ['\n']⟩ := by
  match lines with
  | [] => simp [terminated]
  | [line] => simp [terminated]
  | line :: next :: lines => simp [terminated]

theorem lined_terminated (hlines : lines ≠ []) (hplain : ∀ line ∈ lines, Plain line)
    (hending : IsTerminator ending) : Lined (terminated ending lines) := by
  induction lines with
  | nil => exact absurd rfl hlines
  | cons line lines ih =>
    obtain ⟨hline, hrest⟩ := List.forall_mem_cons.1 hplain
    cases lines with
    | nil => exact .last hline
    | cons next lines =>
      refine .cons hline hending ?_ (ih (List.cons_ne_nil _ _) hrest)
      rintro rfl
      exact head?_terminated_ne (next :: lines)

/-- **Rows put together are the rows of what results.** -/
theorem rows_intercalate (hlines : lines ≠ []) (hplain : ∀ line ∈ lines, Plain line)
    (hending : IsTerminator ending) : rows (ending.intercalate lines) = lines := by
  rw [← map_row_fullRows, ← ofFullRows_terminated,
    fullRows_ofFullRows (lined_terminated hlines hplain hending), map_row_terminated]

/-! ## Other terminators -/

/-- A text with `ending` for each of its terminators. -/
def withEnding (ending : Text) : Text → Text
  | [] => []
  | '\r' :: '\n' :: rest => ending ++ withEnding ending rest
  | c :: rest =>
    if c = '\n' ∨ c = '\r' then ending ++ withEnding ending rest else c :: withEnding ending rest

theorem intercalate_nil_cons (ending : Text) (h : lines ≠ []) :
    ending.intercalate ([] :: lines) = ending ++ ending.intercalate lines := by
  obtain ⟨line, lines, rfl⟩ := List.exists_cons_of_ne_nil h
  rw [List.intercalate_cons_cons, List.nil_append]

theorem intercalate_consRow (ending : Text) (c : Char) (h : lines ≠ []) :
    ending.intercalate (consRow c lines) = c :: ending.intercalate lines := by
  obtain ⟨line, lines, rfl⟩ := List.exists_cons_of_ne_nil h
  cases lines with
  | nil => simp [consRow]
  | cons next lines => simp [consRow, List.intercalate_cons_cons]

/-- With all terminators replaced a text is its rows put together. -/
theorem withEnding_eq_intercalate (ending t : Text) :
    withEnding ending t = ending.intercalate (rows t) := by
  induction t using withEnding.induct with
  | case1 => simp [withEnding, rows]
  | case2 rest ih => rw [withEnding, rows, intercalate_nil_cons _ (rows_ne_nil rest), ih]
  | case3 c rest hcrlf hc ih =>
    rw [withEnding, if_pos hc, rows, if_pos hc, intercalate_nil_cons _ (rows_ne_nil rest), ih]
    all_goals exact hcrlf
  | case4 c rest hcrlf hc ih =>
    rw [withEnding, if_neg hc, rows, if_neg hc, intercalate_consRow _ _ (rows_ne_nil rest), ih]
    all_goals exact hcrlf

theorem plain_of_mem_rows {line : Text} (h : line ∈ rows t) : Plain line := by
  obtain ⟨row, hrow⟩ := List.mem_iff_getElem?.1 h
  exact plain_of_rows hrow

/-- **Other terminators leave the rows alone.** -/
theorem rows_withEnding (t : Text) (hending : IsTerminator ending) :
    rows (withEnding ending t) = rows t := by
  rw [withEnding_eq_intercalate]
  exact rows_intercalate (rows_ne_nil t) (fun _ => plain_of_mem_rows) hending

/-! ## Putting terminators back -/

/-- A carriage return that is a terminator of its own is not followed by a line feed. -/
theorem Lined.head?_ne_feed {above below : List FullRow} {row : Text}
    (h : Lined (above ++ ⟨row, ['\r']⟩ :: below)) : (ofFullRows below).head? ≠ some '\n' := by
  intro hfeed
  cases h.of_append (List.cons_ne_nil _ _) with
  | cons plain terminator apart lined => exact apart rfl (lined.head?_eq_of_feed hfeed)

end Text
end GymLang
