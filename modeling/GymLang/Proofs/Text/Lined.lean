import GymLang.Proofs.Text.Rows

/-!
# Rows that a text can have

Not every list of rows with terminators is that of a text.  A row may hold a terminator
itself, or a row may be empty and the carriage return before it and the line feed behind it
one terminator.  `Lined` leaves these out, and what it allows is just what texts have
(`lined_fullRows`, `fullRows_ofFullRows`).

So it can be told what becomes of a text in which a row is changed: it has the other rows
as before (`rows_replaceRow`), or, if a carriage return and a line feed come together, one
row less (`rows_replaceRow_nil`).
-/

namespace GymLang
namespace Text

/-- A text without terminators. -/
def Plain (t : Text) : Prop := ∀ c ∈ t, ¬ (c = '\n' ∨ c = '\r')

/-- What can end a row. -/
def IsTerminator (t : Text) : Prop := t = ['\n'] ∨ t = ['\r'] ∨ t = ['\r', '\n']

/-- Full rows as a text has them.  No row holds a terminator, all rows but the last end with
one, and a lone carriage return is not followed by a lone line feed, since the two would be
a single terminator. -/
inductive Lined : List FullRow → Prop
  | last {row : Text} (plain : Plain row) : Lined [⟨row, []⟩]
  | cons {row ending : Text} {fs : List FullRow} (plain : Plain row)
    (terminator : IsTerminator ending)
    (apart : ending = ['\r'] → fs.head? ≠ some ⟨[], ['\n']⟩) (lined : Lined fs) :
    Lined (⟨row, ending⟩ :: fs)

theorem plain_iff {t : Text} : Plain t ↔ '\n' ∉ t ∧ '\r' ∉ t := by
  constructor
  · exact fun h => ⟨fun hfeed => h _ hfeed (.inl rfl), fun hreturn => h _ hreturn (.inr rfl)⟩
  · rintro ⟨hfeed, hreturn⟩ c hc (rfl | rfl)
    · exact hfeed hc
    · exact hreturn hc

theorem plain_nil : Plain [] := fun _ h => absurd h List.not_mem_nil

theorem plain_cons {c : Char} {t : Text} :
    Plain (c :: t) ↔ ¬ (c = '\n' ∨ c = '\r') ∧ Plain t :=
  List.forall_mem_cons

theorem plain_append {s t : Text} : Plain (s ++ t) ↔ Plain s ∧ Plain t :=
  List.forall_mem_append

theorem fullRows_of_ne {c : Char} (h : ¬ (c = '\n' ∨ c = '\r')) (t : Text) :
    fullRows (c :: t) = consFullRow c (fullRows t) := by
  rw [fullRows, if_neg h]
  rintro rest rfl -
  exact h (Or.inr rfl)

theorem fullRows_feed (t : Text) : fullRows ('\n' :: t) = ⟨[], ['\n']⟩ :: fullRows t := by
  rw [fullRows, if_pos (Or.inl rfl)]
  rintro rest h -
  exact absurd h (by decide)

theorem fullRows_return {t : Text} (h : t.head? ≠ some '\n') :
    fullRows ('\r' :: t) = ⟨[], ['\r']⟩ :: fullRows t := by
  rw [fullRows, if_pos (Or.inr rfl)]
  rintro rest - rfl
  exact h rfl

theorem lined_fullRows (t : Text) : Lined (fullRows t) := by
  induction t using fullRows.induct with
  | case1 => exact .last plain_nil
  | case2 rest ih =>
    rw [fullRows]
    exact .cons plain_nil (.inr (.inr rfl)) (fun h => by simp at h) ih
  | case3 c rest hcrlf hc ih =>
    rw [fullRows, if_pos hc]
    · refine .cons plain_nil ?_ ?_ ih
      · rcases hc with rfl | rfl
        · exact .inl rfl
        · exact .inr (.inl rfl)
      · intro hreturn hhead
        -- the rest would start with a line feed, and the two would be one terminator
        obtain ⟨fs, hfs⟩ := List.head?_eq_some_iff.1 hhead
        have hrest : rest = '\n' :: ofFullRows fs := by
          rw [← ofFullRows_fullRows rest, hfs]
          rfl
        exact hcrlf _ (List.singleton_inj.1 hreturn) hrest
    · exact hcrlf
  | case4 c rest hcrlf hc ih =>
    rw [fullRows, if_neg hc]
    · cases h : fullRows rest with
      | nil => exact absurd h (fullRows_ne_nil rest)
      | cons f fs =>
        rw [h] at ih
        cases ih with
        | last plain => exact .last (plain_cons.2 ⟨hc, plain⟩)
        | cons plain terminator apart lined =>
          exact .cons (plain_cons.2 ⟨hc, plain⟩) terminator apart lined
    · exact hcrlf

/-- What has no terminator goes in front of the first row. -/
theorem fullRows_append {row : Text} (hrow : Plain row) {t first ending : Text}
    {fs : List FullRow} (h : fullRows t = ⟨first, ending⟩ :: fs) :
    fullRows (row ++ t) = ⟨row ++ first, ending⟩ :: fs := by
  induction row with
  | nil => exact h
  | cons c row ih =>
    obtain ⟨hc, hrow⟩ := plain_cons.1 hrow
    rw [List.cons_append, fullRows_of_ne hc, ih hrow, consFullRow, List.cons_append]

theorem Lined.head?_eq_of_feed {fs : List FullRow} (h : Lined fs)
    (hhead : (ofFullRows fs).head? = some '\n') : fs.head? = some ⟨[], ['\n']⟩ := by
  cases h with
  | @last row plain =>
    cases row with
    | nil => simp at hhead
    | cons c row => simp_all [plain_cons]
  | @cons row ending fs plain terminator apart lined =>
    cases row with
    | nil => rcases terminator with rfl | rfl | rfl <;> simp_all
    | cons c row => simp_all [plain_cons]

/-- **Full rows that a text can have are those of the text they make up.** -/
theorem fullRows_ofFullRows {fs : List FullRow} (h : Lined fs) :
    fullRows (ofFullRows fs) = fs := by
  induction h with
  | @last row plain =>
    have hnil : fullRows [] = [⟨[], []⟩] := rfl
    simpa using fullRows_append plain hnil
  | @cons row ending fs plain terminator apart lined ih =>
    have hending : fullRows (ending ++ ofFullRows fs) = ⟨[], ending⟩ :: fs := by
      rcases terminator with rfl | rfl | rfl
      · rw [List.singleton_append, fullRows_feed, ih]
      · rw [List.singleton_append, fullRows_return fun hhead => ?_, ih]
        exact apart rfl (lined.head?_eq_of_feed hhead)
      · rw [List.cons_append, List.singleton_append, fullRows, ih]
    simpa using fullRows_append plain hending

theorem lined_cons_iff {f : FullRow} {fs : List FullRow} (hfs : fs ≠ []) :
    Lined (f :: fs) ↔ Plain f.row ∧ IsTerminator f.ending ∧
      (f.ending = ['\r'] → fs.head? ≠ some ⟨[], ['\n']⟩) ∧ Lined fs := by
  constructor
  · intro h
    cases h with
    | last plain => exact absurd rfl hfs
    | cons plain terminator apart lined => exact ⟨plain, terminator, apart, lined⟩
  · rintro ⟨plain, terminator, apart, lined⟩
    exact .cons plain terminator apart lined

theorem Lined.plain {fs : List FullRow} (h : Lined fs) : ∀ f ∈ fs, Plain f.row := by
  induction h with
  | last plain => exact fun f hf => List.mem_singleton.1 hf ▸ plain
  | cons plain terminator apart lined ih => exact List.forall_mem_cons.2 ⟨plain, ih⟩

theorem Lined.ending {fs : List FullRow} (h : Lined fs) :
    ∀ f ∈ fs, f.ending = [] ∨ IsTerminator f.ending := by
  induction h with
  | last plain => exact fun f hf => .inl (List.mem_singleton.1 hf ▸ rfl)
  | cons plain terminator apart lined ih => exact List.forall_mem_cons.2 ⟨.inr terminator, ih⟩

/-- No row of a text holds a terminator. -/
theorem plain_of_rows {t line : Text} {row : Nat} (hline : (rows t)[row]? = some line) :
    Plain line := by
  obtain ⟨above, ending, below, h, -⟩ := exists_fullRows hline
  exact (lined_fullRows t).plain ⟨line, ending⟩ (by simp [h])

theorem Lined.of_append {above fs : List FullRow} (h : Lined (above ++ fs)) (hfs : fs ≠ []) :
    Lined fs := by
  induction above with
  | nil => exact h
  | cons f above ih =>
    rw [List.cons_append, lined_cons_iff (by simp [hfs])] at h
    exact ih h.2.2.2

/-- Other rows may follow the first ones, unless they would let a lone carriage return meet
a lone line feed. -/
theorem Lined.graft {above fs gs : List FullRow} (h : Lined (above ++ fs)) (hfs : fs ≠ [])
    (hgs : Lined gs)
    (hapart : above.getLast?.map FullRow.ending = some ['\r'] → gs.head? ≠ some ⟨[], ['\n']⟩) :
    Lined (above ++ gs) := by
  induction above with
  | nil => exact hgs
  | cons f above ih =>
    rw [List.cons_append, lined_cons_iff (by simp [hfs])] at h
    obtain ⟨plain, terminator, apart, lined⟩ := h
    cases above with
    | nil => exact .cons plain terminator (fun hreturn => hapart (by simp [hreturn])) hgs
    | cons g above =>
      exact .cons plain terminator (by simpa using apart) (ih lined (by simpa using hapart))

/-! ## Changing a row -/

theorem replaceRow_of_fullRows {t : Text} {above below : List FullRow} {f : FullRow}
    (h : fullRows t = above ++ f :: below) (new : Text) :
    replaceRow t above.length new = ofFullRows (above ++ ⟨new, f.ending⟩ :: below) := by
  rw [replaceRow, h, List.modify_eq_take_cons_drop (by simp)]
  simp

/-- A row that stands between a lone carriage return and a lone line feed.  Were it empty,
the two would be one terminator. -/
def KeepsApart (t : Text) (row : Nat) : Prop :=
  ∃ above before line below,
    fullRows t = above ++ ⟨before, ['\r']⟩ :: ⟨line, ['\n']⟩ :: below ∧ row = above.length + 1

/-- **A row is changed and no other**, unless what it keeps apart comes together. -/
theorem rows_replaceRow {t line new : Text} {row : Nat} (hline : (rows t)[row]? = some line)
    (hnew : Plain new) (hapart : ¬ (new = [] ∧ KeepsApart t row)) :
    rows (replaceRow t row new) = (rows t).set row new := by
  obtain ⟨above, ending, below, h, rfl⟩ := exists_fullRows hline
  have hlined := lined_fullRows t
  rw [h] at hlined
  have hrow : Lined (⟨new, ending⟩ :: below) := by
    cases hlined.of_append (by simp) with
    | last plain => exact .last hnew
    | cons plain terminator apart lined => exact .cons hnew terminator apart lined
  have hnewLined : Lined (above ++ ⟨new, ending⟩ :: below) := by
    refine hlined.graft (by simp) hrow fun hreturn hfeed => ?_
    simp only [List.head?_cons, Option.some.injEq, FullRow.mk.injEq] at hfeed
    obtain ⟨rfl, rfl⟩ := hfeed
    rcases List.eq_nil_or_concat above with rfl | ⟨above, f, rfl⟩
    · simp at hreturn
    · obtain ⟨before, ending⟩ := f
      rw [List.concat_eq_append] at h hreturn hapart
      simp only [List.getLast?_concat, Option.map_some, Option.some.injEq] at hreturn
      subst hreturn
      exact hapart ⟨rfl, above, before, line, below, by simpa using h, by simp⟩
  rw [replaceRow_of_fullRows h, ← map_row_fullRows, fullRows_ofFullRows hnewLined,
    ← map_row_fullRows, h]
  simp

/-- An empty row between a lone carriage return and a lone line feed is gone, and the rows
around it stay. -/
theorem rows_replaceRow_nil {t : Text} {row : Nat} (hapart : KeepsApart t row) :
    rows (replaceRow t row []) = (rows t).eraseIdx row := by
  obtain ⟨above, before, line, below, h, rfl⟩ := hapart
  have hlined := lined_fullRows t
  rw [h] at hlined
  have hrest : Lined (⟨before, ['\r', '\n']⟩ :: below) := by
    obtain ⟨plain, -, -, hfeed⟩ := (lined_cons_iff (by simp)).1 (hlined.of_append (by simp))
    cases hfeed with
    | cons plainLine terminator apart lined =>
      exact .cons plain (.inr (.inr rfl)) (fun hreturn => by simp at hreturn) lined
  have hmerged : Lined (above ++ ⟨before, ['\r', '\n']⟩ :: below) :=
    hlined.graft (by simp) hrest fun _ hfeed => by simp at hfeed
  have hreplaced : replaceRow t (above.length + 1) [] =
      ofFullRows (above ++ ⟨before, ['\r', '\n']⟩ :: below) := by
    have hafter := h
    rw [List.append_cons] at hafter
    simpa using replaceRow_of_fullRows hafter []
  rw [hreplaced, ← map_row_fullRows, fullRows_ofFullRows hmerged, ← map_row_fullRows, h]
  simp [List.eraseIdx_append_of_length_le]

end Text
end GymLang
