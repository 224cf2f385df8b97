import GymLang.Proofs.Document.Cursor

/-!
# The word under the cursor

A word of a line is a run of letters, digits and underscores that lies within no other.  This
is said here of the segments of a line, without the scan that looks for words.

* `Segment.isMaximalRun_iff` — a run is maximal if neither the character in front of it nor the
  one behind it could be added to it.
* `isWord_iff` — so the words of a line are its maximal runs.
* `word_under_cursor` — **the word under the cursor** is the only maximal run that the cursor
  is in or next to, and it is found whenever there is one.
-/

namespace GymLang
namespace Cursor

open Text
open Token (isWordPart)

/-- A segment of a line, with what stands on either side of it. -/
structure Segment (line : Text) where
  before : Text
  covered : Text
  after : Text
  whole : before ++ covered ++ after = line

namespace Segment

variable {line : Text} {s t : Segment line} {c : Char}

/-- The column a segment starts at. -/
def first (s : Segment line) : Nat := units s.before

/-- The column just past a segment. -/
def last (s : Segment line) : Nat := units (s.before ++ s.covered)

/-- A column is in a segment or at one of its two ends. -/
def Touches (s : Segment line) (column : Nat) : Prop := s.first ≤ column ∧ column ≤ s.last

/-- A segment of letters, digits and underscores. -/
def IsRun (s : Segment line) : Prop := s.covered ≠ [] ∧ ∀ c ∈ s.covered, isWordPart c = true

/-- A segment starts no earlier than another one and ends no later. -/
def Within (s t : Segment line) : Prop := t.before <+: s.before ∧ t.after <:+ s.after

/-- A run that lies within no other run. -/
def IsMaximalRun (s : Segment line) : Prop :=
  s.IsRun ∧ ∀ t : Segment line, t.IsRun → s.Within t → t = s

theorem ext_covered (hbefore : s.before = t.before) (hcovered : s.covered = t.covered) :
    s = t := by
  obtain ⟨before, covered, after, hs⟩ := s
  obtain ⟨before', covered', after', ht⟩ := t
  simp only at hbefore hcovered
  subst hbefore hcovered
  obtain rfl : after = after' := List.append_cancel_left (hs.trans ht.symm)
  rfl

theorem before_prefix (s : Segment line) : s.before <+: line :=
  ⟨s.covered ++ s.after, by rw [← List.append_assoc, s.whole]⟩

/-! ## Maximal runs by their neighbours -/

/-- A run is not maximal if it can take up the character in front of it. -/
theorem IsMaximalRun.getLast?_before (h : s.IsMaximalRun) (hc : c ∈ s.before.getLast?) :
    isWordPart c = false := by
  obtain ⟨⟨hne, hrun⟩, hmaximal⟩ := h
  obtain ⟨front, hfront⟩ := List.getLast?_eq_some_iff.1 hc
  refine Bool.eq_false_iff.2 fun hpart => ?_
  have hline : front ++ c :: s.covered ++ s.after = line := by
    simpa [hfront] using s.whole
  have hlarger : (⟨front, c :: s.covered, s.after, hline⟩ : Segment line) = s := by
    apply hmaximal
    · exact ⟨List.cons_ne_nil _ _, List.forall_mem_cons.2 ⟨hpart, hrun⟩⟩
    · exact ⟨⟨[c], hfront.symm⟩, List.suffix_refl _⟩
  have hlength := congrArg (fun u : Segment line => u.before.length) hlarger
  simp [hfront] at hlength

/-- Nor if it can take up the one behind it. -/
theorem IsMaximalRun.head?_after (h : s.IsMaximalRun) (hc : c ∈ s.after.head?) :
    isWordPart c = false := by
  obtain ⟨⟨hne, hrun⟩, hmaximal⟩ := h
  obtain ⟨rest, hrest⟩ := List.head?_eq_some_iff.1 hc
  refine Bool.eq_false_iff.2 fun hpart => ?_
  have hline : s.before ++ (s.covered ++ [c]) ++ rest = line := by
    simpa [hrest] using s.whole
  have hlarger : (⟨s.before, s.covered ++ [c], rest, hline⟩ : Segment line) = s := by
    apply hmaximal
    · refine ⟨by simp, ?_⟩
      exact List.forall_mem_append.2 ⟨hrun, List.forall_mem_singleton.2 hpart⟩
    · exact ⟨List.prefix_refl _, ⟨[c], hrest.symm⟩⟩
  have hlength := congrArg (fun u : Segment line => u.after.length) hlarger
  simp [hrest] at hlength

/-- What a longer segment adds stands on the two sides of the shorter one. -/
theorem Within.covered_eq (h : s.Within t) : ∃ left right,
    s.before = t.before ++ left ∧ s.after = right ++ t.after ∧
      t.covered = left ++ s.covered ++ right := by
  obtain ⟨⟨left, hleft⟩, ⟨right, hright⟩⟩ := h
  refine ⟨left, right, hleft.symm, hright.symm, ?_⟩
  have hsame : t.before ++ (t.covered ++ t.after) =
      t.before ++ (left ++ s.covered ++ right ++ t.after) := by
    simpa [← hleft, ← hright] using t.whole.trans s.whole.symm
  exact List.append_cancel_right (List.append_cancel_left hsame)

/-- **A run is maximal** if neither of its two neighbours could be added to it. -/
theorem isMaximalRun_iff : s.IsMaximalRun ↔ s.IsRun ∧
    (∀ c ∈ s.before.getLast?, isWordPart c = false) ∧
    (∀ c ∈ s.after.head?, isWordPart c = false) := by
  constructor
  · intro h
    exact ⟨h.1, fun c hc => h.getLast?_before hc, fun c hc => h.head?_after hc⟩
  · rintro ⟨hrun, hbefore, hafter⟩
    refine ⟨hrun, fun t ht hwithin => ?_⟩
    obtain ⟨left, right, hleft, hright, hcovered⟩ := hwithin.covered_eq
    have hparts : ∀ c ∈ left ++ s.covered ++ right, isWordPart c = true := hcovered ▸ ht.2
    have hnoleft : left = [] := by
      cases hlast : left.getLast? with
      | none => exact List.getLast?_eq_none_iff.1 hlast
      | some c =>
        have hpart : isWordPart c = true := by
          apply hparts
          simp [List.mem_of_getLast? hlast]
        have hbreak : isWordPart c = false := by
          apply hbefore
          simp [hleft, hlast]
        exact absurd (hpart.symm.trans hbreak) (by decide)
    have hnoright : right = [] := by
      cases right with
      | nil => rfl
      | cons c right =>
        have hpart : isWordPart c = true := by
          apply hparts
          simp
        have hbreak : isWordPart c = false := by
          apply hafter
          simp [hright]
        exact absurd (hpart.symm.trans hbreak) (by decide)
    apply ext_covered
    · rw [hleft, hnoleft, List.append_nil]
    · rw [hcovered, hnoleft, hnoright, List.append_nil, List.nil_append]

/-! ## Columns of segments -/

/-- The two columns of a segment are those of its two byte offsets. -/
theorem columnOfByte_first (s : Segment line) :
    columnOfByte line (bytes s.before) = s.first := by
  have hline : s.before ++ (s.covered ++ s.after) = line := by
    rw [← List.append_assoc, s.whole]
  have hcolumn := columnOfByte_bytes s.before (s.covered ++ s.after)
  rwa [hline] at hcolumn

theorem columnOfByte_last (s : Segment line) :
    columnOfByte line (bytes (s.before ++ s.covered)) = s.last := by
  have hcolumn := columnOfByte_bytes (s.before ++ s.covered) s.after
  rwa [s.whole] at hcolumn

end Segment

/-! ## Words -/

variable {line : Text} {r : Run} {column : Nat}

/-- **The words of a line are its maximal runs.** -/
theorem isWord_iff : IsWord line r ↔
    ∃ s : Segment line, s.IsMaximalRun ∧ r.start = s.first ∧ r.text = s.covered := by
  constructor
  · intro h
    cases h with
    | @intro before w after hne hw hbefore hafter =>
      refine ⟨⟨before, w, after, rfl⟩, ?_, rfl, rfl⟩
      exact Segment.isMaximalRun_iff.2 ⟨⟨hne, hw⟩, hbefore, hafter⟩
  · rintro ⟨⟨before, w, after, rfl⟩, hmaximal, hstart, htext⟩
    obtain ⟨⟨hne, hw⟩, hbefore, hafter⟩ := Segment.isMaximalRun_iff.1 hmaximal
    obtain ⟨start, text⟩ := r
    simp only at hstart htext
    subst hstart htext
    exact .intro hne hw hbefore hafter

theorem stop_eq_last {s : Segment line} (hstart : r.start = s.first) (htext : r.text = s.covered) :
    r.stop = s.last := by
  rw [Run.stop, hstart, htext, Segment.last, units_append]
  rfl

/-- What is found is a maximal run at the cursor, with its columns. -/
theorem word?_eq_some_iff_segment : word? line column = some r ↔
    ∃ s : Segment line, s.IsMaximalRun ∧ s.Touches column ∧
      r.start = s.first ∧ r.stop = s.last ∧ r.text = s.covered := by
  rw [word?_eq_some_iff, isWord_iff, touches_iff]
  constructor
  · rintro ⟨⟨s, hmaximal, hstart, htext⟩, htouches⟩
    have hstop := stop_eq_last hstart htext
    refine ⟨s, hmaximal, ?_, hstart, hstop, htext⟩
    rwa [hstart, hstop] at htouches
  · rintro ⟨s, hmaximal, htouches, hstart, hstop, htext⟩
    refine ⟨⟨s, hmaximal, hstart, htext⟩, ?_⟩
    rwa [hstart, hstop]

/-- A maximal run at the cursor is found. -/
theorem word?_of_segment {s : Segment line} (hmaximal : s.IsMaximalRun)
    (htouches : s.Touches column) : word? line column = some ⟨s.first, s.covered⟩ :=
  word?_eq_some_iff_segment.2 ⟨s, hmaximal, htouches, rfl, stop_eq_last rfl rfl, rfl⟩

/-- No two maximal runs are at the same column. -/
theorem Segment.eq_of_touches {s t : Segment line} (hs : s.IsMaximalRun) (ht : t.IsMaximalRun)
    (hcolumn : s.Touches column) (hcolumn' : t.Touches column) : s = t := by
  have hsame := (word?_of_segment hs hcolumn).symm.trans (word?_of_segment ht hcolumn')
  obtain ⟨hfirst, hcovered⟩ := Run.mk.inj (Option.some.inj hsame)
  exact ext_covered (eq_of_units_eq s.before_prefix t.before_prefix hfirst) hcovered

/-- **The word under the cursor.**  At a column of a line a word is found just if the column is
in a maximal run of letters, digits and underscores or at one of its two ends.  There is then
exactly one such run, and what is found has its text and its columns, which are the columns of
the byte offsets between which it stands. -/
theorem word_under_cursor (line : Text) (column : Nat) :
    ((∃ r, word? line column = some r) ↔
      ∃ s : Segment line, s.IsMaximalRun ∧ s.Touches column) ∧
    ∀ r, word? line column = some r →
      ∃ s : Segment line, s.IsMaximalRun ∧ s.Touches column ∧
        (∀ t : Segment line, t.IsMaximalRun → t.Touches column → t = s) ∧
        r.text = s.covered ∧ r.start = s.first ∧ r.stop = s.last ∧
        r.start = columnOfByte line (bytes s.before) ∧
        r.stop = columnOfByte line (bytes (s.before ++ s.covered)) := by
  refine ⟨⟨?_, ?_⟩, ?_⟩
  · rintro ⟨r, hr⟩
    obtain ⟨s, hmaximal, htouches, -⟩ := word?_eq_some_iff_segment.1 hr
    exact ⟨s, hmaximal, htouches⟩
  · rintro ⟨s, hmaximal, htouches⟩
    exact ⟨_, word?_of_segment hmaximal htouches⟩
  · intro r hr
    obtain ⟨s, hmaximal, htouches, hstart, hstop, htext⟩ := word?_eq_some_iff_segment.1 hr
    refine ⟨s, hmaximal, htouches, ?_, htext, hstart, hstop, ?_, ?_⟩
    · intro t ht hcolumn
      exact Segment.eq_of_touches ht hmaximal hcolumn htouches
    · rw [s.columnOfByte_first, hstart]
    · rw [s.columnOfByte_last, hstop]

/-- Between a character of two code units and one of two bytes, with the cursor behind it. -/
theorem word_under_cursor_wide :
    word? "💪 a_1é b".toList 6 = some ⟨3, "a_1".toList⟩ ∧
      ∃ s : Segment "💪 a_1é b".toList, s.IsMaximalRun ∧ s.Touches 6 ∧
        (∀ t : Segment "💪 a_1é b".toList, t.IsMaximalRun → t.Touches 6 → t = s) ∧
        s.covered = "a_1".toList ∧ s.first = 3 ∧ s.last = 6 := by
  have hword : word? "💪 a_1é b".toList 6 = some ⟨3, "a_1".toList⟩ := by decide +kernel
  obtain ⟨s, hmaximal, htouches, honly, htext, hstart, hstop, -, -⟩ :=
    (word_under_cursor _ _).2 _ hword
  exact ⟨hword, s, hmaximal, htouches, honly, htext.symm, hstart.symm, hstop.symm⟩

end Cursor
end GymLang
