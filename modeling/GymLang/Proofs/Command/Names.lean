import GymLang.Exec.Basic
import GymLang.Proofs.Token.Grammar

/-!
# Names of commands

There are two tables of commands.  Editing help lists keywords (`Command.keyword`) and finds
a word among them whatever the case of its ASCII letters; carrying out a line looks up its
first word, in capitals, among words of its own (`Command.ofKeyword?`).

* `ofKeyword?_eq_some_iff` — the words known to the one are the keywords of the other, and
  stand for the same commands.
* `named?_eq` — so a word is found among the keywords if it is known in ASCII capitals.
* `named?_eq_none` — what is not written like a word names no command.
* `ofKeyword?_upper` — **the two tables agree** on the words of the language, which are made
  of ASCII characters.
-/

namespace GymLang

open Token

/-- A character that has a capital form is a letter, and so is that form. -/
theorem Text.toUpper_eq_or (c : Char) :
    c.toUpper = c ∨ isWordStart c = true ∧ isWordStart c.toUpper = true := by
  have hletters : ∀ n < 123, 97 ≤ n →
      isWordStart (Char.ofNat n) = true ∧ isWordStart (Char.ofNat n).toUpper = true := by decide
  by_cases h : 97 ≤ c.toNat ∧ c.toNat < 123
  · right
    simpa using hletters c.toNat h.2 h.1
  · left
    refine dif_neg ?_
    intro hlower
    simp only [UInt32.le_iff_toNat_le] at hlower
    exact h ⟨hlower.1, Nat.lt_succ_of_le hlower.2⟩

namespace Command

variable {c : Command} {w : Text}

/-- Every keyword is a word that is known, and stands for its command. -/
theorem ofKeyword?_word (c : Command) : ofKeyword? c.word = some c := by
  rw [ofKeyword?, word, String.ofList_toList]
  cases c <;> rfl

/-- No other word is known. -/
theorem word_of_ofKeyword? (h : ofKeyword? w = some c) : c.word = w := by
  have hword : ∀ s : String, String.ofList w = s → s.toList = w := by
    rintro s rfl
    exact String.toList_ofList
  unfold ofKeyword? at h
  split at h <;> cases h
  all_goals exact hword _ ‹_›

theorem ofKeyword?_eq_some_iff : ofKeyword? w = some c ↔ c.word = w := by
  constructor
  · exact word_of_ofKeyword?
  · rintro rfl
    exact ofKeyword?_word c

theorem keyword_injective {d : Command} (h : c.keyword = d.keyword) : c = d := by
  have hword : c.word = d.word := congrArg String.toList h
  rw [← Option.some.injEq, ← ofKeyword?_word c, ← ofKeyword?_word d, hword]

/-- Keywords are written in capitals. -/
theorem map_toUpper_word (c : Command) : c.word.map Char.toUpper = c.word := by
  cases c <;> decide

/-- The list of commands has no keyword twice. -/
theorem find?_word (c : Command) : all.find? (fun d => d.word == c.word) = some c := by
  cases c <;> decide

theorem named?_eq (w : Text) : named? w = ofKeyword? (w.map Char.toUpper) := by
  have hnamed : named? w = all.find? fun c => c.word == w.map Char.toUpper := by
    simp only [named?, Text.sameIgnoringCase, map_toUpper_word]
  rw [hnamed]
  cases h : ofKeyword? (w.map Char.toUpper) with
  | some c => rw [← word_of_ofKeyword? h, find?_word]
  | none =>
    refine List.find?_eq_none.2 fun c _ hword => ?_
    rw [← beq_iff_eq.1 hword, ofKeyword?_word] at h
    exact nomatch h

/-- A word names the command whose keyword it is up to letter case. -/
theorem named?_eq_some_iff :
    named? w = some c ↔ Text.sameIgnoringCase c.word w = true := by
  rw [named?_eq, ofKeyword?_eq_some_iff, Text.sameIgnoringCase, map_toUpper_word, beq_iff_eq]

theorem isWordStart_of_mem_word {d : Char} (h : d ∈ c.word) : isWordStart d = true := by
  have hall : c.word.all isWordStart = true := by cases c <;> decide
  exact List.all_eq_true.1 hall d h

/-- A text with a character that no word starts with names no command. -/
theorem named?_eq_none {d : Char} (hmem : d ∈ w) (h : isWordStart d = false) :
    named? w = none := by
  refine Option.eq_none_iff_forall_ne_some.2 fun c hc => ?_
  rw [named?_eq, ofKeyword?_eq_some_iff] at hc
  have hword : d.toUpper ∈ c.word := hc ▸ List.mem_map_of_mem hmem
  rcases Text.toUpper_eq_or d with hsame | ⟨hstart, -⟩
  · rw [hsame] at hword
    exact Bool.false_ne_true (h.symm.trans (isWordStart_of_mem_word hword))
  · exact Bool.false_ne_true (h.symm.trans hstart)

end Command

/-! ## Words of the language -/

theorem Text.upper_eq_map {w : Text} (h : ∀ c ∈ w, c.toNat < 128) :
    upper w = w.map Char.toUpper := by
  induction w with
  | nil => rfl
  | cons c w ih =>
    have hw : upper w = w.map Char.toUpper := ih fun d hd => h d (List.mem_cons_of_mem c hd)
    have hc : upperForm c = [c.toUpper] := if_pos (h c List.mem_cons_self)
    rw [upper, List.flatMap_cons, hc, List.map_cons, List.singleton_append, ← upper, hw]

theorem toNat_lt_of_isWordPart {c : Char} (h : isWordPart c = true) : c.toNat < 128 := by
  simp only [isWordPart, isWordStart, Text.isDigit, Bool.or_eq_true, Bool.and_eq_true,
    decide_eq_true_eq, Char.le_def, UInt32.le_iff_toNat_le, beq_iff_eq] at h
  rcases h with ((h | h) | rfl) | h
  · exact Nat.lt_of_le_of_lt h.2 (by decide)
  · exact Nat.lt_of_le_of_lt h.2 (by decide)
  · decide
  · exact Nat.lt_of_le_of_lt h.2 (by decide)

theorem PieceKind.Fits.isWordPart {w : Text} (h : PieceKind.word.Fits w) :
    ∀ c ∈ w, isWordPart c = true := by
  cases h with
  | word hstart hrun =>
    intro c hc
    rcases List.mem_cons.1 hc with rfl | hc
    · exact isWordPart_of_isWordStart hstart
    · exact hrun c hc

theorem PieceKind.Fits.toNat_lt {w : Text} (h : PieceKind.word.Fits w) :
    ∀ c ∈ w, c.toNat < 128 :=
  fun c hc => toNat_lt_of_isWordPart (h.isWordPart c hc)

/-- **The two rules agree** on the words of the language. -/
theorem Command.ofKeyword?_upper {w : Text} (h : PieceKind.word.Fits w) :
    ofKeyword? (Text.upper w) = named? w := by
  rw [Text.upper_eq_map h.toNat_lt, named?_eq]

end GymLang
