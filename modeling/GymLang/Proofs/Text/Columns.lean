import GymLang.Text.Basic

/-!
# Columns between characters

A column is of use to an editor only if it lies in front of a character or at the end of
the line.  `Bounds` says so of two columns at once, by naming the part of the line that
stands between them.  Byte offsets that lie between characters become columns that do
(`columnOfByte_bytes`), and all others become the end of the line
(`columnOfByte_of_not_isBoundary`).  In ASCII an offset is its own column
(`columnOfByte_of_ascii`).
-/

namespace GymLang
namespace Text

theorem charUnits_pos (c : Char) : 0 < charUnits c := by
  unfold charUnits
  split
  · exact Nat.one_pos
  · exact Nat.two_pos

theorem eq_nil_of_units {t : Text} (h : units t = 0) : t = [] := by
  cases t with
  | nil => rfl
  | cons c t =>
    have hpos := charUnits_pos c
    rw [units_cons] at h
    omega

theorem eq_nil_of_bytes {t : Text} (h : bytes t = 0) : t = [] := by
  cases t with
  | nil => rfl
  | cons c t =>
    have hpos := c.utf8Size_pos
    rw [bytes_cons] at h
    omega

/-! ## ASCII -/

/-- In ASCII a character is a byte. -/
theorem bytes_eq_length {t : Text} (h : ∀ c ∈ t, c.toNat < 128) : bytes t = t.length := by
  induction t with
  | nil => rfl
  | cons c t ih =>
    obtain ⟨hc, ht⟩ := List.forall_mem_cons.1 h
    have hsize : c.utf8Size = 1 :=
      Char.utf8Size_eq_one_iff.2 (UInt32.le_iff_toNat_le.2 (Nat.le_of_lt_succ hc))
    rw [bytes_cons, hsize, ih ht, List.length_cons, Nat.add_comm]

/-- In ASCII a character is a code unit. -/
theorem units_eq_length {t : Text} (h : ∀ c ∈ t, c.toNat < 128) : units t = t.length := by
  induction t with
  | nil => rfl
  | cons c t ih =>
    obtain ⟨hc, ht⟩ := List.forall_mem_cons.1 h
    have hsize : charUnits c = 1 := if_pos (Nat.lt_trans hc (by decide))
    rw [units_cons, hsize, ih ht, List.length_cons, Nat.add_comm]

/-! ## What stands in front of a place -/

variable {line front front' : Text}

/-- What stands in front of a column is known by its code units. -/
theorem eq_of_units_eq (h : front <+: line) (h' : front' <+: line)
    (hunits : units front = units front') : front = front' := by
  rcases List.prefix_or_prefix_of_prefix h h' with ⟨more, rfl⟩ | ⟨more, rfl⟩
  · rw [units_append] at hunits
    have hmore : units more = 0 := by omega
    rw [eq_nil_of_units hmore, List.append_nil]
  · rw [units_append] at hunits
    have hmore : units more = 0 := by omega
    rw [eq_nil_of_units hmore, List.append_nil]

/-- Of two places the one with fewer bytes in front of it comes first. -/
theorem prefix_of_bytes_le (h : front <+: line) (h' : front' <+: line)
    (hbytes : bytes front ≤ bytes front') : front <+: front' := by
  rcases List.prefix_or_prefix_of_prefix h h' with hfirst | ⟨more, rfl⟩
  · exact hfirst
  · rw [bytes_append] at hbytes
    have hmore : bytes more = 0 := by omega
    refine ⟨[], ?_⟩
    rw [eq_nil_of_bytes hmore, List.append_nil, List.append_nil]

/-! ## Parts of a line -/

/-- Two columns of a line with whole characters between them. -/
def Bounds (line : Text) (first last : Nat) : Prop :=
  ∃ before covered after,
    line = before ++ covered ++ after ∧ units before = first ∧ units (before ++ covered) = last

theorem Bounds.le {line : Text} {first last : Nat} (h : Bounds line first last) :
    first ≤ last := by
  obtain ⟨before, covered, after, -, rfl, rfl⟩ := h
  rw [units_append]
  exact Nat.le_add_right _ _

/-- What is in front of a character, wherever it occurs. -/
theorem forall_before_iff {line : Text} {c : Char} (P : Text → Prop) :
    (∀ before after, line = before ++ c :: after → P before) ↔
      ∀ n < line.length, (line.drop n).head? = some c → P (line.take n) := by
  constructor
  · intro h n _ hc
    obtain ⟨after, hafter⟩ := List.head?_eq_some_iff.1 hc
    refine h (line.take n) after ?_
    rw [← hafter, List.take_append_drop]
  · rintro h before after rfl
    have htake : (before ++ c :: after).take before.length = before := List.take_left
    have hbefore := h before.length (by simp) (by simp)
    rwa [htake] at hbefore

/-! ## From bytes to columns -/

/-- A byte offset between two characters of a line, or at one of its ends. -/
def IsBoundary (line : Text) (byte : Nat) : Prop :=
  ∃ front back, line = front ++ back ∧ bytes front = byte

theorem unitsBefore?_bytes (front back : Text) :
    unitsBefore? (front ++ back) (bytes front) = some (units front) := by
  induction front with
  | nil => cases back <;> rfl
  | cons c front ih =>
    obtain ⟨n, hn⟩ : ∃ n, bytes (c :: front) = n + 1 :=
      ⟨bytes (c :: front) - 1, by have := c.utf8Size_pos; rw [bytes_cons]; omega⟩
    have hrest : n + 1 - c.utf8Size = bytes front := by rw [← hn, bytes_cons]; omega
    have hsize : ¬ n + 1 < c.utf8Size := by rw [← hn, bytes_cons]; omega
    rw [hn, List.cons_append, unitsBefore?, if_neg hsize, hrest, ih]
    rfl

/-- The column of a byte offset between two characters counts the code units before it. -/
theorem columnOfByte_bytes (front back : Text) :
    columnOfByte (front ++ back) (bytes front) = units front := by
  rw [columnOfByte, unitsBefore?_bytes, Option.getD_some]

/-- Code units are counted only up to a byte offset between two characters. -/
theorem isBoundary_of_unitsBefore? {byte n : Nat} (h : unitsBefore? line byte = some n) :
    IsBoundary line byte := by
  induction line generalizing byte n with
  | nil =>
    cases byte with
    | zero => exact ⟨[], [], rfl, rfl⟩
    | succ b => exact absurd h (by simp [unitsBefore?])
  | cons c line ih =>
    cases byte with
    | zero => exact ⟨[], c :: line, rfl, rfl⟩
    | succ b =>
      rw [unitsBefore?] at h
      split at h
      · exact absurd h (by simp)
      · rename_i hsize
        obtain ⟨k, hk, -⟩ := Option.map_eq_some_iff.1 h
        obtain ⟨front, back, rfl, hbytes⟩ := ih hk
        refine ⟨c :: front, back, rfl, ?_⟩
        rw [bytes_cons, hbytes]
        omega

/-- An offset that does not lie between two characters counts as the end of the line. -/
theorem columnOfByte_of_not_isBoundary {byte : Nat} (h : ¬ IsBoundary line byte) :
    columnOfByte line byte = units line := by
  cases hbefore : unitsBefore? line byte with
  | none => rw [columnOfByte, hbefore, Option.getD_none]
  | some n => exact absurd (isBoundary_of_unitsBefore? hbefore) h

/-- No byte offset has a column past the end of the line. -/
theorem columnOfByte_le (line : Text) (byte : Nat) : columnOfByte line byte ≤ units line := by
  by_cases h : IsBoundary line byte
  · obtain ⟨front, back, rfl, rfl⟩ := h
    rw [columnOfByte_bytes, units_append]
    exact Nat.le_add_right _ _
  · exact Nat.le_of_eq (columnOfByte_of_not_isBoundary h)

section

variable {n : Nat} (h : ∀ c ∈ line, c.toNat < 128) (hn : n ≤ line.length)
include h hn

/-- In ASCII every byte offset up to the end lies between two characters. -/
theorem isBoundary_of_ascii : IsBoundary line n := by
  refine ⟨line.take n, line.drop n, (List.take_append_drop n line).symm, ?_⟩
  rw [bytes_eq_length fun c hc => h c (List.mem_of_mem_take hc), List.length_take,
    Nat.min_eq_left hn]

/-- And it is its own column. -/
theorem columnOfByte_of_ascii : columnOfByte line n = n := by
  have hascii : ∀ c ∈ line.take n, c.toNat < 128 := fun c hc => h c (List.mem_of_mem_take hc)
  have hlength : (line.take n).length = n := by rw [List.length_take, Nat.min_eq_left hn]
  have hcolumn := columnOfByte_bytes (line.take n) (line.drop n)
  rwa [List.take_append_drop, bytes_eq_length hascii, units_eq_length hascii, hlength] at hcolumn

end

end Text
end GymLang
