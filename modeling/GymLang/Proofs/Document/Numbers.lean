import Mathlib.Data.List.Basic
import Mathlib.Data.List.TakeWhile
import GymLang.Proofs.Document.Strings
import GymLang.Proofs.Token.Neighbours

/-!
# Numbers under the cursor

A hover tells a number by how it is written, a point included.  But the cursor is never on
more than a run of letters, digits and underscores, and to no such run does a point belong:
on a number with a fraction the cursor is on the digits on one side of the point, and these
are shown as a number of their own.

* `Subject.ofText_digits` — digits are shown as a number.
* `number_under_cursor` — **what is shown for a number**: the number, if and only if it has
  no point, and else its whole part or its fraction.
* `hover_halves` — `1.1` is a number to hovers, but on it in a line they show a half of it.
-/

namespace GymLang

open Token (isWordStart_of_isDigit startsWith_of_digits)
open Text (units isDigit isDecimalDigit)

/-! ## Digits -/

namespace Text

variable {c : Char}

theorem isDecimalDigit_of_isDigit (h : isDigit c = true) : isDecimalDigit c = true := by
  simp only [isDigit, Bool.and_eq_true, decide_eq_true_eq, Char.le_def,
    UInt32.le_iff_toNat_le] at h
  have hlow : 0x30 ≤ c.toNat := h.1
  have hhigh : c.toNat ≤ 0x39 := h.2
  refine List.any_eq_true.2 ⟨0x30, List.mem_cons_self, ?_⟩
  simp only [Bool.and_eq_true, decide_eq_true_eq]
  omega

end Text

/-- Digits are shown as a number. -/
theorem Subject.ofText_digits {ds : Text} (h : ds.Digits) : Subject.ofText ds = .number ds := by
  have hdecimal : ∀ c ∈ ds, isDecimalDigit c = true :=
    fun c hc => Text.isDecimalDigit_of_isDigit (h.2 c hc)
  have hname : Command.named? ds = none := by
    obtain ⟨c, s, hds, hc⟩ := startsWith_of_digits h
    have hmem : c ∈ ds := hds ▸ List.mem_cons_self
    exact Command.named?_eq_none hmem (isWordStart_of_isDigit hc)
  have htake : ds.takeWhile isDecimalDigit = ds := List.takeWhile_eq_self_iff.2 hdecimal
  have hdrop : ds.dropWhile isDecimalDigit = [] := List.dropWhile_eq_nil_iff.2 hdecimal
  have hnumber : Subject.isNumber ds = true := by
    rw [Subject.isNumber, htake, hdrop]
    simpa using h.1
  rw [Subject.ofText, hname, hnumber]
  rfl

namespace Line

open Cursor Token

variable {line : Text} {tokens : List Token} {t : Token} {column : Nat}

theorem isWordPart_of_digits {ds : Text} (h : ds.Digits) : ∀ c ∈ ds, isWordPart c = true :=
  fun c hc => isWordPart_of_isDigit (h.2 c hc)

theorem point_not_mem_of_digits {ds : Text} (h : ds.Digits) : '.' ∉ ds :=
  fun hmem => absurd (h.2 _ hmem) (by decide)

/-- The cursor on digits that are a word is on a number, unless on something quoted. -/
theorem hoverAt?_digits {before ds after : Text} (hdigits : ds.Digits)
    (hbefore : ∀ c ∈ before.getLast?, isWordPart c = false)
    (hafter : ∀ c ∈ after.head?, isWordPart c = false)
    (hquoted : quoted? (before ++ ds ++ after) column = none)
    (hstart : units before ≤ column) (hstop : column ≤ units (before ++ ds)) (row : Nat) :
    hoverAt? row (before ++ ds ++ after) column =
      some ⟨.number ds, .inRow row (units before) (units (before ++ ds))⟩ := by
  have hword : IsWord (before ++ ds ++ after) ⟨units before, ds⟩ :=
    .intro hdigits.1 (isWordPart_of_digits hdigits) hbefore hafter
  rw [Text.units_append] at hstop ⊢
  have hfound : word? (before ++ ds ++ after) column = some ⟨units before, ds⟩ :=
    word?_eq_some_iff.2 ⟨hword, touches_iff.2 ⟨hstart, hstop⟩⟩
  rw [hoverAt?, hquoted, Option.none_or, hfound, Option.map_some, Subject.ofText_digits hdigits]
  rfl

/-- The cursor on a number with a point is on the digits in front of it or on those behind. -/
theorem hoverAt?_decimal {before ds es after : Text} (hds : ds.Digits) (hes : es.Digits)
    (hbefore : ∀ c ∈ before.getLast?, isWordPart c = false)
    (hafter : ∀ c ∈ after.head?, isWordPart c = false)
    (hquoted : quoted? (before ++ (ds ++ '.' :: es) ++ after) column = none)
    (hstart : units before ≤ column) (hstop : column ≤ units (before ++ (ds ++ '.' :: es)))
    (row : Nat) :
    hoverAt? row (before ++ (ds ++ '.' :: es) ++ after) column =
      some (if column ≤ units before + units ds then
          ⟨.number ds, .inRow row (units before) (units before + units ds)⟩
        else ⟨.number es, .inRow row (units before + units ds + 1)
          (units (before ++ (ds ++ '.' :: es)))⟩) := by
  by_cases hcolumn : column ≤ units before + units ds
  · rw [if_pos hcolumn]
    have hline : before ++ (ds ++ '.' :: es) ++ after = before ++ ds ++ ('.' :: es ++ after) := by
      simp
    have hpoint : ∀ c ∈ ('.' :: es ++ after).head?, isWordPart c = false := by
      rintro c ⟨⟩
      decide
    rw [hline] at hquoted ⊢
    rw [← Text.units_append] at hcolumn ⊢
    exact hoverAt?_digits hds hbefore hpoint hquoted hstart hcolumn row
  · rw [if_neg hcolumn]
    have hline : before ++ (ds ++ '.' :: es) = before ++ ds ++ ['.'] ++ es := by simp
    have hpoint : ∀ c ∈ (before ++ ds ++ ['.']).getLast?, isWordPart c = false := by
      rw [List.getLast?_concat]
      rintro c ⟨⟩
      decide
    have hfront : units (before ++ ds ++ ['.']) = units before + units ds + 1 := by
      simp [Text.charUnits, Nat.add_assoc]
    rw [hline] at hquoted hstop ⊢
    rw [← hfront]
    exact hoverAt?_digits hes hpoint hafter hquoted (by omega) hstop row

/-- **What is shown for a number** without a sign.  Anywhere between its ends, these included,
nothing is quoted if no string of the lexer is there.  Where nothing is quoted, the number is
shown with its columns if and only if it has no point; if it has one, it is the whole part
up to the point and the fraction behind it. -/
theorem number_under_cursor (h : tokenize line = .ok tokens) (ht : t ∈ tokens)
    (hkind : t.kind = .number) (hsign : t.text.head? ≠ some '-')
    (hword : ∀ s ∈ tokens, s.kind = .word → s.span.start ≠ t.span.stop)
    (hstart : (columns line t.span).start ≤ column)
    (hstop : column ≤ (columns line t.span).stop) :
    ('\n' ∉ line →
      (∀ s ∈ tokens, s.kind = .string →
        ¬ ((columns line s.span).start ≤ column ∧ column ≤ (columns line s.span).stop)) →
      quoted? line column = none) ∧
    (quoted? line column = none → ∀ row,
      (hoverAt? row line column = some ⟨.number t.text,
          .inRow row (columns line t.span).start (columns line t.span).stop⟩ ↔ '.' ∉ t.text) ∧
      ∀ whole fraction, t.text = whole ++ '.' :: fraction →
        hoverAt? row line column = some
          (if column ≤ (columns line t.span).start + units whole then
            ⟨.number whole, .inRow row (columns line t.span).start
              ((columns line t.span).start + units whole)⟩
          else ⟨.number fraction, .inRow row ((columns line t.span).start + units whole + 1)
              (columns line t.span).stop⟩)) := by
  constructor
  · intro hfeed hout
    refine quoted?_eq_none_of_le h hfeed (fun s hs hstring => ?_) ht ?_
    · rw [touches_iff, stop_run h hs]
      exact hout s hs hstring
    · rwa [stop_run h ht]
  · intro hquoted row
    obtain ⟨hunsigned, before, after, rfl, hspan, hbefore, hafter⟩ :=
      stands_apart_of_number h ht hkind hsign hword
    rw [hspan, columns_bytes] at hstart hstop ⊢
    generalize t.text = s at hunsigned hquoted hstart hstop ⊢
    cases hunsigned with
    | whole hds =>
      have hpoint : '.' ∉ s := point_not_mem_of_digits hds
      refine ⟨iff_of_true (hoverAt?_digits hds hbefore hafter hquoted hstart hstop row) hpoint, ?_⟩
      rintro whole fraction rfl
      exact absurd (List.mem_append_right _ List.mem_cons_self) hpoint
    | @decimal ds es hds hes =>
      have hshown := hoverAt?_decimal hds hes hbefore hafter hquoted hstart hstop row
      refine ⟨iff_of_false ?_ ?_, ?_⟩
      · -- what is shown has no point
        have hne {u : Text} (hu : u.Digits) : Subject.number u ≠ .number (ds ++ '.' :: es) := by
          rintro heq
          obtain rfl := Subject.number.inj heq
          exact point_not_mem_of_digits hu (by simp)
        intro hall
        have hsame := congrArg (Option.map Hover.subject) (hshown.symm.trans hall)
        rw [Option.map_some, Option.map_some, Option.some.injEq, apply_ite Hover.subject] at hsame
        split at hsame
        · exact hne hds hsame
        · exact hne hes hsame
      · simp
      · intro whole fraction heq
        obtain ⟨rfl, -, rfl⟩ := (List.append_cons_inj_of_notMem (point_not_mem_of_digits hds)
          (point_not_mem_of_digits hes)).1 heq
        exact hshown

/-- The fraction of a number behind a string with a character of two code units. -/
theorem number_under_cursor_fraction :
    quoted? "\"💪\" 2.5 # \"x\"".toList 8 = none ∧
      hoverAt? 0 "\"💪\" 2.5 # \"x\"".toList 8 = some ⟨.number ['5'], .inRow 0 7 8⟩ := by
  have htokens : tokenize "\"💪\" 2.5 # \"x\"".toList =
      .ok [⟨.string, ['💪'], ⟨0, 6⟩⟩, ⟨.number, "2.5".toList, ⟨7, 10⟩⟩] := by
    decide +kernel
  have hstart : (columns "\"💪\" 2.5 # \"x\"".toList ⟨7, 10⟩).start ≤ 8 := by decide +kernel
  obtain ⟨hquoted, hshown⟩ := number_under_cursor htokens
    (List.mem_cons_of_mem _ List.mem_cons_self) rfl (by decide) (by decide +kernel) hstart
    (by decide +kernel)
  have hnone := hquoted (by decide) (by decide +kernel)
  obtain ⟨-, hpart⟩ := hshown hnone 0
  exact ⟨hnone, (hpart ['2'] ['5'] rfl).trans (by decide +kernel)⟩

/-- A number with a point is shown as a number when it is looked at on its own, but not by a
hover on its line. -/
theorem hover_halves :
    tokenize "GAINS bench 1.1".toList =
        .ok [⟨.word, "GAINS".toList, ⟨0, 5⟩⟩, ⟨.word, "bench".toList, ⟨6, 11⟩⟩,
          ⟨.number, "1.1".toList, ⟨12, 15⟩⟩] ∧
      columns "GAINS bench 1.1".toList ⟨12, 15⟩ = ⟨12, 15⟩ ∧
      Subject.ofText "1.1".toList = .number "1.1".toList ∧
      hoverAt? 0 "GAINS bench 1.1".toList 13 = some ⟨.number ['1'], .inRow 0 12 13⟩ ∧
      hoverAt? 0 "GAINS bench 1.1".toList 13 ≠ some ⟨.number "1.1".toList, .inRow 0 12 15⟩ := by
  decide +kernel

end Line
end GymLang
