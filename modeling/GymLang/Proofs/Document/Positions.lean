import GymLang.Proofs.Document.Buffer

/-!
# Positions and edits

`Document.offset` leads from positions to offsets and `Document.position` back: an offset
has a row, and in the row it has as many code units before it as its column says.  The two
are inverse to each other but where a position is none of the text or an offset is within a
terminator.  With offsets understood, so are edits.

* `position_spec` — **the way back.**
* `edited_iff` — a list of changes as replacements of stretches of text.
* `positions_well_placed` — all that an editor may rely on.
-/

namespace GymLang
namespace Document

open Text

variable {t : Text}

/-! ## The way back -/

/-- The position of an offset among full rows. -/
def positionIn : List FullRow → Nat → Position
  | [], _ => ⟨0, 0⟩
  | f :: fs, i =>
    if i ≤ f.row.length then ⟨0, units (f.row.take i)⟩
    else
      let p := positionIn fs (i - (f.row ++ f.ending).length)
      ⟨p.line + 1, p.character⟩

/-- The position of an offset: its row, and the code units of the row's text before it. -/
def position (t : Text) (i : Nat) : Position := positionIn (fullRows t) i

theorem positionIn_of_le {f : FullRow} {i : Nat} (h : i ≤ f.row.length) (fs : List FullRow) :
    positionIn (f :: fs) i = ⟨0, units (f.row.take i)⟩ := by
  rw [positionIn, if_pos h]

theorem positionIn_of_lt {f : FullRow} {i : Nat} (h : f.row.length < i) (fs : List FullRow) :
    positionIn (f :: fs) i =
      ⟨(positionIn fs (i - (f.row ++ f.ending).length)).line + 1,
        (positionIn fs (i - (f.row ++ f.ending).length)).character⟩ := by
  rw [positionIn, if_neg (Nat.not_le_of_lt h)]

/-- An offset past the text of a row is past its terminator, if it is not within it. -/
theorem length_le_of_not_splitsPair {row ending rest : Text} {i : Nat}
    (hending : IsTerminator ending) (h : row.length < i)
    (hsplits : ¬ SplitsPair (row ++ ending ++ rest) i) : (row ++ ending).length ≤ i := by
  rw [List.length_append]
  rcases hending with rfl | rfl | rfl
  · exact h
  · exact h
  · refine Nat.le_of_not_lt fun hlt => hsplits ?_
    have hi : i = row.length + 1 := by
      simp only [List.length_cons, List.length_nil] at hlt
      omega
    rw [hi, List.append_assoc]
    exact splitsPair_append (by simp [SplitsPair])

/-- An offset that is not within a terminator has a row, and stands behind a part of its
text. -/
theorem positionIn_spec {fs : List FullRow} (hfs : Lined fs) {i : Nat}
    (hi : i ≤ (ofFullRows fs).length) (hsplits : ¬ SplitsPair (ofFullRows fs) i) :
    ∃ above before after ending below, fs = above ++ ⟨before ++ after, ending⟩ :: below ∧
      positionIn fs i = ⟨above.length, units before⟩ ∧
      (ofFullRows above).length + before.length = i := by
  have hfirst {f : FullRow} {fs : List FullRow} {i : Nat} (h : i ≤ f.row.length) :
      ∃ above before after ending below, f :: fs = above ++ ⟨before ++ after, ending⟩ :: below ∧
        positionIn (f :: fs) i = ⟨above.length, units before⟩ ∧
        (ofFullRows above).length + before.length = i := by
    refine ⟨[], f.row.take i, f.row.drop i, f.ending, fs, ?_, positionIn_of_le h fs, ?_⟩
    · rw [List.take_append_drop, List.nil_append]
    · rw [ofFullRows_nil, List.length_nil, Nat.zero_add, List.length_take_of_le h]
  induction hfs generalizing i with
  | @last row plain => exact hfirst (by simpa using hi)
  | @cons row ending fs plain terminator apart lined ih =>
    by_cases h : i ≤ row.length
    · exact hfirst h
    · rw [ofFullRows_cons] at hi hsplits
      have hpast : (row ++ ending).length ≤ i :=
        length_le_of_not_splitsPair terminator (Nat.lt_of_not_le h) hsplits
      obtain ⟨j, rfl⟩ := Nat.exists_eq_add_of_le hpast
      have hj : j ≤ (ofFullRows fs).length := by
        simp only [List.length_append] at hi
        omega
      obtain ⟨above, before, after, ending', below, rfl, hposition, hlength⟩ :=
        ih hj fun hpair => hsplits (splitsPair_append hpair)
      refine ⟨⟨row, ending⟩ :: above, before, after, ending', below, rfl, ?_, ?_⟩
      · rw [positionIn_of_lt (Nat.lt_of_not_le h), Nat.add_sub_cancel_left, hposition,
          List.length_cons]
      · rw [← hlength, ofFullRows_cons]
        simp only [List.length_append]
        omega

/-- The row of an offset, and what stands before the offset. -/
theorem position_spec {i : Nat} (hi : i ≤ t.length) (hsplits : ¬ SplitsPair t i) :
    ∃ before after, (rows t)[(position t i).line]? = some (before ++ after) ∧
      (position t i).character = units before ∧
      rowStart t (position t i).line + before.length = i ∧
      offset t (position t i).line (position t i).character = i := by
  rw [← ofFullRows_fullRows t] at hi hsplits
  obtain ⟨above, before, after, ending, below, h, hposition, hlength⟩ :=
    positionIn_spec (lined_fullRows t) hi hsplits
  have hposition : position t i = ⟨above.length, units before⟩ := hposition
  rw [hposition]
  refine ⟨before, after, ?_, rfl, ?_, ?_⟩
  · simp [← map_row_fullRows, h]
  · rw [rowStart_of_fullRows h, hlength]
  · rw [offset_of_fullRows h, hlength]

/-! ## Changes as replacements -/

/-- What becomes of a text by changes, each of them in the text the earlier ones have left.
A change without a range gives the whole text.  A change with a range puts its text in the
place of what stands between the two offsets, and before the first offset if the second one
does not follow it. -/
inductive Edited : Text → List Change → Text → Prop
  | done (t : Text) : Edited t [] t
  | whole {t new last : Text} {rest : List Change} (later : Edited new rest last) :
    Edited t (⟨none, new⟩ :: rest) last
  | replaced {front old back new last : Text} {r : Range} {rest : List Change}
    (start : offset (front ++ old ++ back) r.start.line r.start.character = front.length)
    (stop : offset (front ++ old ++ back) r.stop.line r.stop.character =
      (front ++ old).length)
    (later : Edited (front ++ new ++ back) rest last) :
    Edited (front ++ old ++ back) (⟨some r, new⟩ :: rest) last
  | inserted {front back new last : Text} {r : Range} {rest : List Change}
    (start : offset (front ++ back) r.start.line r.start.character = front.length)
    (reversed : offset (front ++ back) r.stop.line r.stop.character ≤ front.length)
    (later : Edited (front ++ new ++ back) rest last) :
    Edited (front ++ back) (⟨some r, new⟩ :: rest) last

theorem apply_replaced {front old back : Text} {r : Range}
    (start : offset (front ++ old ++ back) r.start.line r.start.character = front.length)
    (stop : offset (front ++ old ++ back) r.stop.line r.stop.character = (front ++ old).length)
    (new : Text) : Change.apply (front ++ old ++ back) ⟨some r, new⟩ = front ++ new ++ back := by
  have hmax : max front.length (front ++ old).length = front.length + old.length := by
    rw [List.length_append]
    omega
  simp only [Change.apply, start, stop, hmax, splice_append]

theorem apply_inserted {front back : Text} {r : Range}
    (start : offset (front ++ back) r.start.line r.start.character = front.length)
    (reversed : offset (front ++ back) r.stop.line r.stop.character ≤ front.length)
    (new : Text) : Change.apply (front ++ back) ⟨some r, new⟩ = front ++ new ++ back := by
  have hsplice := splice_append front [] back new
  rw [List.append_nil, List.length_nil, Nat.add_zero] at hsplice
  simp only [Change.apply, start, Nat.max_eq_left reversed, hsplice]

theorem exists_split {i j : Nat} (hij : i ≤ j) (hj : j ≤ t.length) :
    ∃ front old back, t = front ++ old ++ back ∧ front.length = i ∧
      (front ++ old).length = j := by
  have hfront : t.take i = (t.take j).take i := by rw [List.take_take, Nat.min_eq_left hij]
  have hold : t.take i ++ (t.take j).drop i = t.take j := by
    rw [hfront, List.take_append_drop]
  refine ⟨t.take i, (t.take j).drop i, t.drop j, ?_, ?_, ?_⟩
  · rw [hold, List.take_append_drop]
  · exact List.length_take_of_le (Nat.le_trans hij hj)
  · rw [hold, List.length_take_of_le hj]

/-- **Changes are replacements.**  There is one text that the changes lead to, whatever
their positions are. -/
theorem edited_iff {changes : List Change} {last : Text} :
    Edited t changes last ↔ changes.foldl Change.apply t = last := by
  constructor
  · intro h
    induction h with
    | done t => rfl
    | whole later ih => exact ih
    | replaced start stop later ih => rw [List.foldl_cons, apply_replaced start stop, ih]
    | inserted start reversed later ih => rw [List.foldl_cons, apply_inserted start reversed, ih]
  · rintro rfl
    induction changes generalizing t with
    | nil => exact .done t
    | cons change rest ih =>
      obtain ⟨range, new⟩ := change
      cases range with
      | none => exact .whole ih
      | some r =>
        have hstart := offset_le_length t r.start.line r.start.character
        have hstop := offset_le_length t r.stop.line r.stop.character
        rcases Nat.le_total (offset t r.start.line r.start.character)
            (offset t r.stop.line r.stop.character) with h | h
        · obtain ⟨front, old, back, rfl, hfront, hold⟩ := exists_split h hstop
          rw [List.foldl_cons, apply_replaced hfront.symm hold.symm]
          exact .replaced hfront.symm hold.symm ih
        · obtain ⟨front, old, back, ht, hfront, -⟩ := exists_split (Nat.le_refl _) hstart
          rw [List.append_assoc] at ht
          subst ht
          rw [← hfront] at h
          rw [List.foldl_cons, apply_inserted hfront.symm h]
          exact .inserted hfront.symm h ih

/-! ## What an editor may rely on -/

/-- Where the positions of a text lead. -/
structure WellPlaced (t : Text) : Prop where
  /-- Positions keep their order, by rows first and then by columns. -/
  ordered : ∀ row column row' column', row < row' ∨ row = row' ∧ column ≤ column' →
    offset t row column ≤ offset t row' column'
  /-- No position is past the end of the text, -/
  bounded : ∀ row column, offset t row column ≤ t.length
  /-- and none is between a carriage return and its line feed. -/
  apart : ∀ row column, ¬ SplitsPair t (offset t row column)
  /-- Any other offset has a position: the row it is in, and the code units of the part of
  the row before it. -/
  placed : ∀ i ≤ t.length, ¬ SplitsPair t i → ∃ before after,
    (rows t)[(position t i).line]? = some (before ++ after) ∧
      (position t i).character = units before ∧
      rowStart t (position t i).line + before.length = i
  /-- The position of an offset leads back to it. -/
  back : ∀ i ≤ t.length, ¬ SplitsPair t i →
    offset t (position t i).line (position t i).character = i
  /-- A column past the end of a row is the end of the row's text, -/
  past_row : ∀ row line column, (rows t)[row]? = some line → units line ≤ column →
    offset t row column = rowStart t row + line.length
  /-- a row past the last is the end of the text, -/
  past_end : ∀ row column, (rows t).length ≤ row → offset t row column = t.length
  /-- and a column within a character is the start of the character. -/
  within : ∀ row before c after column, (rows t)[row]? = some (before ++ c :: after) →
    units before ≤ column → column < units before + charUnits c →
    offset t row column = rowStart t row + before.length
  /-- A buffer that keeps lines with their terminators comes to the same offsets. -/
  buffer : ∀ row column, Buffer.index t row column = offset t row column
  /-- Changes replace what stands between the offsets of their positions. -/
  edits : ∀ changes version version' last, Edited t changes last ↔
    (Document.mk t version).edit changes version' = ⟨last, version'⟩

/-- **Positions are well placed.**  Rows and columns lead to offsets as the rows of the text
have it, wherever they point, and edits go by these offsets. -/
theorem positions_well_placed (t : Text) : WellPlaced t where
  ordered _ _ _ _ h := offset_mono h
  bounded := offset_le_length t
  apart := not_splitsPair_offset t
  placed i hi hsplits := by
    obtain ⟨before, after, hrow, hcolumn, hstart, -⟩ := position_spec hi hsplits
    exact ⟨before, after, hrow, hcolumn, hstart⟩
  back i hi hsplits := by
    obtain ⟨-, -, -, -, -, hback⟩ := position_spec hi hsplits
    exact hback
  past_row _ _ _ hline h := offset_past_row hline h
  past_end _ column h := offset_past_end h column
  within _ _ _ _ _ hline hfrom hto := offset_within hline hfrom hto
  buffer := Buffer.index_eq_offset t
  edits changes version version' last := by
    rw [edited_iff, Document.edit, Document.mk.injEq, and_iff_left rfl]

/-- Three rows, the second one empty: the end of the first, and a column within the
character there. -/
theorem positions_well_placed_crlf :
    ¬ SplitsPair "a💪\r\n\rb".toList 2 ∧
      offset "a💪\r\n\rb".toList (position "a💪\r\n\rb".toList 2).line
        (position "a💪\r\n\rb".toList 2).character = 2 ∧
      offset "a💪\r\n\rb".toList 0 2 = 1 ∧ offset "a💪\r\n\rb".toList 0 9 = 2 ∧
      offset "a💪\r\n\rb".toList 3 0 = 6 := by
  have hsplits : ¬ SplitsPair "a💪\r\n\rb".toList 2 := by decide
  have hplaced := positions_well_placed "a💪\r\n\rb".toList
  exact ⟨hsplits, hplaced.back 2 (by decide) hsplits,
    hplaced.within 0 ['a'] '💪' [] 2 (by decide) (by decide) (by decide),
    hplaced.past_row 0 ['a', '💪'] 9 (by decide) (by decide),
    hplaced.past_end 3 0 (by decide)⟩

end Document
end GymLang
