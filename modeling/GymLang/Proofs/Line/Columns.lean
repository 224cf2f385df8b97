import GymLang.Line.Analysis
import GymLang.Proofs.Text.Columns

/-!
# Columns of byte spans

An engine marks tokens by spans of bytes, and nothing is known of the spans of an engine but
that their bounds are numbers.  They become columns of the line all the same.  An editor is told
columns and lengths in 32 bits, so that in a line of 2 ^ 32 code units or more they are no longer
in order.

* `isBoundary_min` — an offset past the end is cut off there, which is between characters too.
* `columns_between` — from bounds that are in order come columns in order, which count the code
  units in front of the two places.
* `columns_of_mem_faults` — a fault covers the line or the span of its first token.
* `toNat_narrow`, `narrow_le_narrow`, `narrow_add` — counts in 32 bits.
* `columns_in_line` — **no column lies outside a line** that is short enough to be counted in 32
  bits, for any span and any engine.
* `columns_wrap` — and in a longer one some do.
-/

namespace GymLang
namespace Line

open Text

variable {line : Text} {byte : Nat} {s : Span} {engine : Engine} {f : Fault}

/-! ## Offsets past the end -/

/-- An offset between two characters or past the end is between two characters when it is cut
off at the end. -/
theorem isBoundary_min (h : line.IsBoundary byte ∨ bytes line ≤ byte) :
    line.IsBoundary (min byte (bytes line)) := by
  rcases h with ⟨front, back, rfl, rfl⟩ | h
  · refine ⟨front, back, rfl, ?_⟩
    rw [bytes_append]
    omega
  · refine ⟨line, [], (List.append_nil line).symm, ?_⟩
    omega

/-- To cut off an offset at the end of the line does not change its column. -/
theorem columnOfByte_min (line : Text) (byte : Nat) :
    columnOfByte line (min byte (bytes line)) = columnOfByte line byte := by
  rcases Nat.le_total byte (bytes line) with hle | hle
  · rw [Nat.min_eq_left hle]
  · have hend : columnOfByte (line ++ []) (bytes line) = units line := columnOfByte_bytes line []
    rw [List.append_nil] at hend
    rw [Nat.min_eq_right hle, hend]
    by_cases hplaced : line.IsBoundary byte
    · obtain ⟨front, back, rfl, rfl⟩ := hplaced
      rw [bytes_append] at hle
      have hback : back = [] := eq_nil_of_bytes (by omega)
      rw [columnOfByte_bytes, hback, List.append_nil]
    · exact (columnOfByte_of_not_isBoundary hplaced).symm

/-- The place of an offset in the line, and its column. -/
theorem exists_place (h : line.IsBoundary byte ∨ bytes line ≤ byte) :
    ∃ front, front <+: line ∧ bytes front = min byte (bytes line) ∧
      columnOfByte line byte = units front := by
  obtain ⟨front, back, hline, hbytes⟩ := isBoundary_min h
  refine ⟨front, ⟨back, hline.symm⟩, hbytes, ?_⟩
  rw [← columnOfByte_min, ← hbytes, hline, columnOfByte_bytes]

/-- **Bounds in order become columns in order**, which count the code units in front of the two
places. -/
theorem columns_between (hle : s.start ≤ s.stop)
    (hstart : line.IsBoundary s.start ∨ bytes line ≤ s.start)
    (hstop : line.IsBoundary s.stop ∨ bytes line ≤ s.stop) :
    ∃ before covered after, line = before ++ covered ++ after ∧
      bytes before = min s.start (bytes line) ∧
      bytes (before ++ covered) = min s.stop (bytes line) ∧
      columns line s = ⟨units before, units (before ++ covered)⟩ := by
  obtain ⟨before, hbefore, hbytes, hcolumn⟩ := exists_place hstart
  obtain ⟨front, hfront, hbytes', hcolumn'⟩ := exists_place hstop
  have hfirst : before <+: front := by
    apply prefix_of_bytes_le hbefore hfront
    omega
  obtain ⟨covered, rfl⟩ := hfirst
  obtain ⟨after, hline⟩ := hfront
  refine ⟨before, covered, after, hline.symm, hbytes, hbytes', ?_⟩
  rw [columns, hcolumn, hcolumn']

/-! ## Columns of faults -/

theorem columns_of_unknownCommand? {first : Token} (h : unknownCommand? line first = some f) :
    f.columns = columns line first.span := by
  unfold unknownCommand? at h
  split at h
  · rw [← Option.some.inj h]
  · exact absurd h (by simp)

theorem columns_of_execution? {tokens : List Token}
    (h : execution? engine line tokens = some f) : f.columns = whole line := by
  unfold execution? at h
  split at h
  · exact absurd h (by simp)
  · rw [← Option.some.inj h]

/-- A fault covers the line, or the span of the first token. -/
theorem columns_of_mem_faults (h : f ∈ (analyze engine line).faults) :
    f.columns = whole line ∨
      ∃ first args, engine.tokenize line = .ok (first :: args) ∧
        f.columns = columns line first.span := by
  unfold analyze at h
  split at h
  · rw [List.mem_singleton] at h
    subst h
    exact .inl rfl
  · exact absurd h List.not_mem_nil
  · rename_i first args htokens
    simp only [List.mem_append, Option.mem_toList] at h
    rcases h with h | h
    · exact .inr ⟨first, args, htokens, columns_of_unknownCommand? h⟩
    · exact .inl (columns_of_execution? h)

/-- A first word that names no command is marked where its span says. -/
theorem mem_faults_of_unknown (engine : Engine) (line : Text) {first : Token} {args : List Token}
    (h : engine.tokenize line = .ok (first :: args)) (hkind : first.kind = .word)
    (hnone : Command.named? first.text = none) :
    ⟨.unknownCommand, columns line first.span, unknownCommandMessage first.text⟩ ∈
      (analyze engine line).faults := by
  simp only [analyze, h, List.mem_append, Option.mem_toList]
  exact .inl (if_pos ⟨hkind, hnone⟩)

theorem columns_le (line : Text) (s : Span) :
    (columns line s).start ≤ units line ∧ (columns line s).stop ≤ units line :=
  ⟨columnOfByte_le line s.start, columnOfByte_le line s.stop⟩

/-- Nor do the columns of a fault. -/
theorem columns_of_mem_faults_le (h : f ∈ (analyze engine line).faults) :
    f.columns.start ≤ units line ∧ f.columns.stop ≤ units line := by
  rcases columns_of_mem_faults h with hwhole | ⟨first, args, -, hspan⟩
  · rw [hwhole]
    exact ⟨Nat.zero_le _, Nat.le_refl _⟩
  · rw [hspan]
    exact columns_le line first.span

/-! ## Columns as editors are told them -/

/-- What an editor is told of the columns of a span. -/
theorem narrow_columns (line : Text) (s : Span) :
    narrow (columns line s).start = column32 line s.start ∧
      narrow (columns line s).stop = column32 line s.stop :=
  ⟨rfl, rfl⟩

theorem toNat_narrow {n : Nat} (h : n < UInt32.size) : (narrow n).toNat = n :=
  UInt32.toNat_ofNat_of_lt h

theorem narrow_le_narrow {m n : Nat} (h : m ≤ n) (hn : n < UInt32.size) : narrow m ≤ narrow n := by
  rw [UInt32.le_iff_toNat_le, toNat_narrow (Nat.lt_of_le_of_lt h hn), toNat_narrow hn]
  exact h

theorem narrow_add (m n : Nat) : narrow (m + n) = narrow m + narrow n := UInt32.ofNat_add m n

/-- **No column lies outside a line that can be counted in 32 bits.**  Bounds of a span that are
in order, each between two characters or past the end of the line, become the lengths of what
stands in front of the two places, an offset past the end being cut off there, and the column of a
place and the length of what is behind it make up the length of the line.  In a line of fewer than
2 ^ 32 code units these lengths and columns are the numbers of code units, so the two columns are
in order and in the line.  Any other bounds, reversed or inside a character, become columns of the
line as well, and so do those of every fault, for any engine. -/
theorem columns_in_line (line : Text) :
    (∀ s : Span, s.start ≤ s.stop → (line.IsBoundary s.start ∨ bytes line ≤ s.start) →
      (line.IsBoundary s.stop ∨ bytes line ≤ s.stop) →
      ∃ before covered after, line = before ++ covered ++ after ∧
        bytes before = min s.start (bytes line) ∧
        bytes (before ++ covered) = min s.stop (bytes line) ∧
        column32 line s.start = length32 before ∧
        column32 line s.stop = length32 (before ++ covered)) ∧
    (∀ front back, line = front ++ back →
      column32 line (bytes front) + length32 back = length32 line) ∧
    (units line < UInt32.size →
      (∀ front back, line = front ++ back → (length32 front).toNat = units front ∧
        (column32 line (bytes front)).toNat + (length32 back).toNat = (length32 line).toNat) ∧
      (∀ s : Span, s.start ≤ s.stop → (line.IsBoundary s.start ∨ bytes line ≤ s.start) →
        (line.IsBoundary s.stop ∨ bytes line ≤ s.stop) →
        column32 line s.start ≤ column32 line s.stop) ∧
      (∀ byte, (column32 line byte).toNat = columnOfByte line byte ∧
        column32 line byte ≤ length32 line) ∧
      ∀ engine, ∀ f ∈ (analyze engine line).faults,
        narrow f.columns.start ≤ length32 line ∧ narrow f.columns.stop ≤ length32 line) := by
  refine ⟨?_, ?_, fun hshort => ⟨?_, ?_, ?_, ?_⟩⟩
  · intro s hle hstart hstop
    obtain ⟨before, covered, after, hline, hbytes, hbytes', hcolumns⟩ :=
      columns_between hle hstart hstop
    obtain ⟨hfirst, hlast⟩ := Span.mk.inj hcolumns
    refine ⟨before, covered, after, hline, hbytes, hbytes', ?_, ?_⟩
    · rw [column32, hfirst, length32]
    · rw [column32, hlast, length32]
  · rintro front back rfl
    rw [column32, columnOfByte_bytes, length32, length32, units_append, narrow_add]
  · rintro front back rfl
    have hsum := units_append front back
    have hfront : units front < UInt32.size := by omega
    have hback : units back < UInt32.size := by omega
    rw [column32, columnOfByte_bytes, length32, length32, length32, toNat_narrow hfront,
      toNat_narrow hback, toNat_narrow hshort]
    exact ⟨rfl, hsum.symm⟩
  · intro s hle hstart hstop
    obtain ⟨before, covered, after, -, -, -, hcolumns⟩ := columns_between hle hstart hstop
    obtain ⟨hfirst, hlast⟩ := Span.mk.inj hcolumns
    have hstopped := columnOfByte_le line s.stop
    refine narrow_le_narrow ?_ (Nat.lt_of_le_of_lt hstopped hshort)
    rw [hfirst, hlast, units_append]
    exact Nat.le_add_right _ _
  · intro byte
    have hle := columnOfByte_le line byte
    exact ⟨toNat_narrow (Nat.lt_of_le_of_lt hle hshort), narrow_le_narrow hle hshort⟩
  · intro engine f hf
    obtain ⟨hstart, hstop⟩ := columns_of_mem_faults_le hf
    exact ⟨narrow_le_narrow hstart hshort, narrow_le_narrow hstop hshort⟩

/-- A span from behind a character of four bytes to far past the end, and an engine that marks
the inside of a character up to the start of the line. -/
theorem columns_in_line_astray :
    (∃ before covered after, "💪FLIP é".toList = before ++ covered ++ after ∧ bytes before = 4 ∧
        column32 "💪FLIP é".toList 4 = length32 before ∧
        column32 "💪FLIP é".toList 90 = length32 (before ++ covered)) ∧
      units "💪FLIP é".toList < UInt32.size ∧
      column32 "💪FLIP é".toList 4 ≤ column32 "💪FLIP é".toList 90 ∧
      column32 "💪FLIP é".toList 2 ≤ 8 ∧
      ∀ f ∈ (analyze ⟨fun _ => .ok [⟨.word, "FLIP".toList, ⟨2, 0⟩⟩], fun _ ctx => (.ok [], ctx)⟩
          "💪FLIP é".toList).faults,
        narrow f.columns.start ≤ 8 ∧ narrow f.columns.stop ≤ 8 := by
  obtain ⟨hplaced, -, hcounted⟩ := columns_in_line "💪FLIP é".toList
  have hshort : units "💪FLIP é".toList < UInt32.size := by decide
  obtain ⟨-, horder, hinside, hfaults⟩ := hcounted hshort
  have hlength : length32 "💪FLIP é".toList = 8 := by decide
  have hstart : IsBoundary "💪FLIP é".toList 4 := ⟨['💪'], "FLIP é".toList, by decide, by decide⟩
  have hstop : bytes "💪FLIP é".toList ≤ 90 := by decide
  rw [hlength] at hinside hfaults
  obtain ⟨before, covered, after, hline, hbytes, -, hfirst, hlast⟩ :=
    hplaced ⟨4, 90⟩ (by decide) (.inl hstart) (.inr hstop)
  exact ⟨⟨before, covered, after, hline, hbytes, hfirst, hlast⟩, hshort,
    horder ⟨4, 90⟩ (by decide) (.inl hstart) (.inr hstop), (hinside 2).2, hfaults _⟩

/-! ## Lines that are too long -/

/-- **In a line of 2 ^ 32 code units the columns are out of order.**  Its length is told as zero.
The bounds of the span behind its first character are in order and between characters, but the
first column of the span is one and the last is zero.  So an engine that marks this span makes a
fault that starts outside the line. -/
theorem columns_wrap :
    IsBoundary (List.replicate UInt32.size 'a') 1 ∧
      IsBoundary (List.replicate UInt32.size 'a') UInt32.size ∧
      length32 (List.replicate UInt32.size 'a') = 0 ∧
      column32 (List.replicate UInt32.size 'a') 1 = 1 ∧
      column32 (List.replicate UInt32.size 'a') UInt32.size = 0 ∧
      ∃ f ∈ (analyze ⟨fun _ => .ok [⟨.word, "a".toList, ⟨1, UInt32.size⟩⟩],
          fun _ ctx => (.ok [], ctx)⟩ (List.replicate UInt32.size 'a')).faults,
        narrow f.columns.start = 1 ∧ narrow f.columns.stop = 0 := by
  have hascii : ∀ c ∈ List.replicate UInt32.size 'a', c.toNat < 128 := by
    intro c hc
    rw [List.eq_of_mem_replicate hc]
    decide
  have hsize : (List.replicate UInt32.size 'a').length = UInt32.size := List.length_replicate
  have hone : 1 ≤ (List.replicate UInt32.size 'a').length := by
    rw [hsize]
    decide
  have hend : UInt32.size ≤ (List.replicate UInt32.size 'a').length := Nat.le_of_eq hsize.symm
  have hlength : length32 (List.replicate UInt32.size 'a') = 0 := by
    rw [length32, units_eq_length hascii, hsize]
    rfl
  have hfirst : column32 (List.replicate UInt32.size 'a') 1 = 1 := by
    rw [column32, columnOfByte_of_ascii hascii hone]
    rfl
  have hlast : column32 (List.replicate UInt32.size 'a') UInt32.size = 0 := by
    rw [column32, columnOfByte_of_ascii hascii hend]
    rfl
  have hfault := mem_faults_of_unknown
    ⟨fun _ => .ok [⟨.word, "a".toList, ⟨1, UInt32.size⟩⟩], fun _ ctx => (.ok [], ctx)⟩
    (List.replicate UInt32.size 'a') rfl rfl (by decide)
  obtain ⟨hstart, hstop⟩ := narrow_columns (List.replicate UInt32.size 'a') ⟨1, UInt32.size⟩
  exact ⟨isBoundary_of_ascii hascii hone, isBoundary_of_ascii hascii hend, hlength, hfirst, hlast,
    _, hfault, hstart.trans hfirst, hstop.trans hlast⟩

end Line
end GymLang
