import GymLang.Proofs.Document.Offsets

/-!
# Places in a text buffer

A text buffer finds a position in steps.  It looks up where the line starts, leaves out the
terminator of the line, counts the code units before the line, adds the column, and asks
which character the code unit it has come to is a part of.  `Buffer.index` takes these
steps, and comes to the same offset as the recursion on the text does
(`Buffer.index_eq_offset`).
-/

namespace GymLang
namespace Buffer

open Text Document

variable {t : Text} {row column : Nat}

/-- The lines of a text, each with its terminator. -/
def lines (t : Text) : List Text := (fullRows t).map fun f => f.row ++ f.ending

/-- Characters of a line that stand before its terminator. -/
def contentLength (line : Text) : Nat :=
  let body := if line.getLast? = some '\n' then line.dropLast else line
  (if body.getLast? = some '\r' then body.dropLast else body).length

/-- The character that a code unit is a part of. -/
def characterOf : Text → Nat → Nat
  | [], _ => 0
  | c :: rest, unit =>
    if unit < charUnits c then 0 else characterOf rest (unit - charUnits c) + 1

/-- Characters before a position, with lines and columns past the end taken back to it. -/
def index (t : Text) (row column : Nat) : Nat :=
  if (lines t).length ≤ row then t.length
  else
    let start := ((lines t).take row).flatten.length
    let stop := start + contentLength ((lines t)[row]?.getD [])
    let unit := units (t.take start) + column
    if units (t.take stop) ≤ unit then stop else characterOf t unit

theorem contentLength_append {line ending : Text} (hline : Plain line)
    (hending : ending = [] ∨ IsTerminator ending) :
    contentLength (line ++ ending) = line.length := by
  have hlast (c : Char) (hc : c = '\n' ∨ c = '\r') : line.getLast? ≠ some c := by
    intro h
    exact hline c (List.mem_of_getLast? h) hc
  have hfeed := hlast '\n' (Or.inl rfl)
  have hreturn := hlast '\r' (Or.inr rfl)
  rcases hending with rfl | rfl | rfl | rfl
  · simp [contentLength, hfeed, hreturn]
  · simp [contentLength, hreturn]
  · simp [contentLength]
  · simp [contentLength]

theorem characterOf_append (front back : Text) (unit : Nat) :
    characterOf (front ++ back) (units front + unit) = front.length + characterOf back unit := by
  induction front with
  | nil => simp
  | cons c front ih =>
    have hunit : units (c :: front) + unit - charUnits c = units front + unit := by
      rw [units_cons]
      omega
    rw [List.cons_append, characterOf, if_neg (by rw [units_cons]; omega), hunit, ih,
      List.length_cons]
    omega

/-- Within a line, the character of a code unit is the one that its column falls in. -/
theorem characterOf_line {line : Text} (hline : Plain line) (h : column < units line)
    (rest : Text) : characterOf (line ++ rest) column = columnOffset line column := by
  induction line generalizing column with
  | nil => exact absurd h (Nat.not_lt_zero column)
  | cons c line ih =>
    obtain ⟨hc, hline⟩ := plain_cons.1 hline
    rw [units_cons] at h
    rw [List.cons_append, characterOf, columnOffset_of_ne hc]
    split
    · rfl
    · rw [ih hline (by omega)]

theorem flatten_lines {fs : List FullRow} :
    (fs.map fun f => f.row ++ f.ending).flatten = ofFullRows fs :=
  List.flatMap_def.symm

/-- **A buffer finds the offset of a position.** -/
theorem index_eq_offset (t : Text) (row column : Nat) : index t row column = offset t row column := by
  by_cases hpast : (rows t).length ≤ row
  · rw [offset_past_end hpast, index, if_pos]
    rwa [lines, List.length_map, ← length_rows]
  · obtain ⟨line, hline⟩ : ∃ line, (rows t)[row]? = some line :=
      ⟨_, List.getElem?_eq_getElem (Nat.lt_of_not_le hpast)⟩
    obtain ⟨above, ending, below, h, rfl⟩ := exists_fullRows hline
    have hplain := plain_of_rows hline
    have hending : ending = [] ∨ IsTerminator ending :=
      (lined_fullRows t).ending ⟨line, ending⟩ (by simp [h])
    have ht : t = ofFullRows above ++ (line ++ (ending ++ ofFullRows below)) := by
      rw [← ofFullRows_fullRows t, h]
      simp
    have hstart : (((lines t).take above.length).flatten).length = (ofFullRows above).length := by
      rw [lines, h, List.map_append, List.take_left' (List.length_map _), flatten_lines]
    have hcontent : contentLength ((lines t)[above.length]?.getD []) = line.length := by
      rw [← contentLength_append hplain hending]
      simp [lines, h]
    have hbefore : t.take (ofFullRows above).length = ofFullRows above := by
      rw [ht, List.take_left]
    have hwith : t.take ((ofFullRows above).length + line.length) = ofFullRows above ++ line := by
      rw [ht, ← List.append_assoc, ← List.length_append, List.take_left]
    have hin : ¬ (lines t).length ≤ above.length := by
      rwa [lines, List.length_map, ← length_rows]
    rw [index, if_neg hin, offset_eq h]
    simp only [hstart, hcontent, hbefore, hwith, units_append, Nat.add_le_add_iff_left]
    by_cases hcolumn : units line ≤ column
    · rw [if_pos hcolumn, columnOffset_past hplain hcolumn]
    · have hlt : column < units line := Nat.lt_of_not_le hcolumn
      have hcharacter : characterOf t (units (ofFullRows above) + column) =
          (ofFullRows above).length + columnOffset line column := by
        rw [congrArg characterOf ht, characterOf_append, characterOf_line hplain hlt]
      rw [if_neg hcolumn, hcharacter]

end Buffer
end GymLang
