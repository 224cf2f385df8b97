import GymLang.Editor.Hover
import GymLang.Proofs.Document.Cursor
import GymLang.Proofs.Line.Faults

/-!
# Strings under the cursor

What is quoted under the cursor is told by counting quotes from the start of the line, and
what is a string by the lexer, which knows of comments.  The two agree up to the first
comment: there every quote in front of a token belongs to a string, so that the quotes pair
up as the lexer pairs them, and behind it there are no tokens.

* `quotedRuns_of_tokenize` — what is quoted in a line: its strings, one by one, and then
  whatever is quoted in a comment at its end.
* `quoted?_of_string` — the cursor on a string is on what is quoted there.
* `quoted?_eq_none` — the cursor on no string is on nothing quoted, unless in a comment.
* `strings_under_cursor` — **the quotes under the cursor are those of the lexer.**
-/

namespace GymLang

open Text (units bytes)

/-! ## Counting quotes -/

namespace Cursor

variable {s body rest : Text} {quoted : Option Text} {r : Run} {n : Nat}

/-- Nothing is quoted where there are no quotes. -/
theorem quotedRunsFrom_plain (h : '"' ∉ s) (n : Nat) (rest : Text) :
    quotedRunsFrom n none (s ++ rest) = quotedRunsFrom (n + units s) none rest := by
  induction s generalizing n with
  | nil => rfl
  | cons c s ih =>
    obtain ⟨hc, hs⟩ := not_or.1 (mt List.mem_cons.2 h)
    rw [List.cons_append, quotedRunsFrom, if_neg (Ne.symm hc), ih hs, Text.units_cons,
      Nat.add_assoc]

/-- What has been opened goes on to the next quote. -/
theorem quotedRunsFrom_opened (h : '"' ∉ body) (n : Nat) (u rest : Text) :
    quotedRunsFrom n (some u) (body ++ '"' :: rest) =
      ⟨n, u ++ body ++ ['"']⟩ :: quotedRunsFrom (n + units (u ++ body ++ ['"'])) none rest := by
  induction body generalizing u with
  | nil => simp [quotedRunsFrom]
  | cons c body ih =>
    obtain ⟨hc, hbody⟩ := not_or.1 (mt List.mem_cons.2 h)
    rw [List.cons_append, quotedRunsFrom, if_neg (Ne.symm hc), ih hbody]
    simp

/-- A string is quoted as a whole. -/
theorem quotedRunsFrom_string (h : '"' ∉ body) (n : Nat) (rest : Text) :
    quotedRunsFrom n none ('"' :: body ++ ['"'] ++ rest) =
      ⟨n, '"' :: body ++ ['"']⟩ :: quotedRunsFrom (n + units ('"' :: body ++ ['"'])) none rest := by
  have hopened := quotedRunsFrom_opened h n ['"'] rest
  simpa [quotedRunsFrom] using hopened

theorem le_start_of_mem_quotedRunsFrom (h : r ∈ quotedRunsFrom n quoted rest) : n ≤ r.start := by
  induction rest generalizing n quoted with
  | nil => cases quoted <;> exact absurd h List.not_mem_nil
  | cons c rest ih =>
    cases quoted with
    | none =>
      rw [quotedRunsFrom] at h
      split at h
      · exact ih h
      · exact Nat.le_trans (Nat.le_add_right _ _) (ih h)
    | some u =>
      rw [quotedRunsFrom] at h
      split at h
      · rcases List.mem_cons.1 h with rfl | h
        · exact Nat.le_refl _
        · exact Nat.le_trans (Nat.le_add_right _ _) (ih h)
      · exact ih h

/-- What is quoted comes from left to right, and one may start where another stops. -/
theorem pairwise_quotedRunsFrom (n : Nat) (quoted : Option Text) (rest : Text) :
    (quotedRunsFrom n quoted rest).Pairwise (·.stop ≤ ·.start) := by
  induction rest generalizing n quoted with
  | nil => cases quoted <;> exact .nil
  | cons c rest ih =>
    cases quoted with
    | none =>
      rw [quotedRunsFrom]
      split
      · exact ih _ _
      · exact ih _ _
    | some u =>
      rw [quotedRunsFrom]
      split
      · exact .cons (fun r hr => le_start_of_mem_quotedRunsFrom hr) (ih _ _)
      · exact ih _ _

end Cursor

/-! ## Quotes of tokens -/

namespace Token

variable {k : PieceKind} {s : Text} {start : Nat} {tokens : List Token} {t : Token}

/-- Only strings and comments are written with quotes. -/
theorem quote_not_mem_of_fits (h : k.Fits s) (hstring : k ≠ .string) (hcomment : k ≠ .comment) :
    '"' ∉ s := by
  have hunsigned {u : Text} (hu : Text.Unsigned u) : '"' ∉ u := by
    intro hmem
    cases hu with
    | whole hds => exact absurd (hds.2 _ hmem) (by decide)
    | decimal hds hes =>
      rcases List.mem_append.1 hmem with hmem | hmem
      · exact absurd (hds.2 _ hmem) (by decide)
      · rcases List.mem_cons.1 hmem with hmem | hmem
        · exact absurd hmem (by decide)
        · exact absurd (hes.2 _ hmem) (by decide)
  intro hmem
  cases h with
  | blank _ hrun => exact absurd (hrun _ hmem) (by decide)
  | comment _ => exact hcomment rfl
  | string _ _ => exact hstring rfl
  | number hu => exact hunsigned hu hmem
  | negative hu =>
    rcases List.mem_cons.1 hmem with hmem | hmem
    · exact absurd hmem (by decide)
    · exact hunsigned hu hmem
  | word hstart hrun =>
    exact absurd (PieceKind.Fits.isWordPart (.word hstart hrun) _ hmem) (by decide)

/-- What is written for a token that is no string has no quotes. -/
theorem quote_not_mem_display (h : (pieceKind t.kind).Fits t.display) (hkind : t.kind ≠ .string) :
    '"' ∉ t.display := by
  cases hk : t.kind with
  | string => exact absurd hk hkind
  | word | number =>
    rw [hk] at h
    exact quote_not_mem_of_fits h nofun nofun

theorem head?_of_fits_comment (h : PieceKind.comment.Fits s) : ∀ c ∈ s.head?, c = '#' := by
  cases h with
  | comment _ =>
    rintro c ⟨⟩
    rfl

/-- There is nothing behind the end of a line. -/
theorem AtLineEnd.eq_nil (h : AtLineEnd s) (hfeed : '\n' ∉ s) : s = [] := by
  cases s with
  | nil => rfl
  | cons c s =>
    obtain rfl := h c rfl
    exact absurd List.mem_cons_self hfeed

/-- There are no tokens in an empty text. -/
theorem LaidOut.eq_nil (h : LaidOut start tokens []) : tokens = [] := by
  generalize htext : ([] : Text) = text at h
  cases h with
  | nil => rfl
  | gap hfits _ _ =>
    exact absurd (List.append_eq_nil_iff.1 htext.symm).1 (fits_ne_nil hfits)
  | token hfits _ _ =>
    exact absurd (List.append_eq_nil_iff.1 htext.symm).1 (fits_ne_nil hfits)

end Token

/-- A string is shown as a string. -/
theorem Subject.ofText_string {s : Text} (h : PieceKind.string.Fits s) :
    Subject.ofText s = .string s := by
  cases h with
  | @string body _ _ =>
    have hname : Command.named? ('"' :: body ++ ['"']) = none :=
      Command.named?_eq_none (d := '"') (by simp) (by decide)
    have hnumber : Subject.isNumber ('"' :: body ++ ['"']) = false := by
      rw [Subject.isNumber, List.cons_append, List.dropWhile_cons_of_neg (by decide)]
      rfl
    have hquoted : Subject.isQuoted ('"' :: body ++ ['"']) = true := by
      rw [Subject.isQuoted, List.getLast?_concat]
      simp
    rw [Subject.ofText, hname, hnumber, hquoted]
    rfl

/-! ## Strings of a line -/

namespace Line

open Cursor Token

variable {line front text : Text} {tokens : List Token} {t : Token} {start column row : Nat}

/-- A token as a stretch of its line. -/
def run (line : Text) (t : Token) : Run := ⟨(columns line t.span).start, t.display⟩

/-- The strings of a line as stretches of it. -/
def stringRuns (line : Text) (tokens : List Token) : List Run :=
  (tokens.filter (·.kind = .string)).map (run line)

/-- A column that is not behind any `#` outside the strings of a line. -/
def BeforeComment (line : Text) (tokens : List Token) (column : Nat) : Prop :=
  ∀ before after, line = before ++ '#' :: after →
    (∀ t ∈ tokens, t.kind = .string →
      ¬ ((columns line t.span).start ≤ units before ∧
        units before < (columns line t.span).stop)) →
    column ≤ units before

theorem beforeComment_iff : BeforeComment line tokens column ↔
    ∀ n < line.length, (line.drop n).head? = some '#' →
      (∀ t ∈ tokens, t.kind = .string →
        ¬ ((columns line t.span).start ≤ units (line.take n) ∧
          units (line.take n) < (columns line t.span).stop)) →
      column ≤ units (line.take n) :=
  Text.forall_before_iff fun before =>
    (∀ t ∈ tokens, t.kind = .string →
      ¬ ((columns line t.span).start ≤ units before ∧
        units before < (columns line t.span).stop)) →
    column ≤ units before

instance : Decidable (BeforeComment line tokens column) :=
  decidable_of_iff _ beforeComment_iff.symm

theorem run_of_span {before after : Text}
    (hspan : t.span = ⟨bytes before, bytes before + bytes t.display⟩) :
    run (before ++ t.display ++ after) t = ⟨units before, t.display⟩ := by
  rw [run, hspan, ← Text.bytes_append, columns_bytes]

theorem mem_stringRuns_iff {r : Run} :
    r ∈ stringRuns line tokens ↔ ∃ t ∈ tokens, t.kind = .string ∧ run line t = r := by
  simp [stringRuns, and_assoc]

theorem stringRuns_cons : stringRuns line (t :: tokens) =
    (if t.kind = .string then [run line t] else []) ++ stringRuns line tokens := by
  by_cases hkind : t.kind = .string
  · simp [stringRuns, hkind]
  · simp [stringRuns, hkind]

/-- Of a token all is quoted or nothing, and no quote in it is left without its partner. -/
theorem quotedRunsFrom_display (h : (pieceKind t.kind).Fits t.display) (n : Nat) (rest : Text) :
    quotedRunsFrom n none (t.display ++ rest) =
      (if t.kind = .string then [⟨n, t.display⟩] else []) ++
        quotedRunsFrom (n + units t.display) none rest := by
  by_cases hkind : t.kind = .string
  · rw [if_pos hkind]
    rw [hkind] at h
    generalize t.display = s at h
    cases h with
    | string hquote _ => exact quotedRunsFrom_string hquote n rest
  · rw [if_neg hkind, quotedRunsFrom_plain (quote_not_mem_display h hkind), List.nil_append]

/-- The stretch of a token stops at the last of its columns. -/
theorem stop_run (h : tokenize line = .ok tokens) (ht : t ∈ tokens) :
    (run line t).stop = (columns line t.span).stop := by
  obtain ⟨before, after, -, hcolumns⟩ := columns_of_mem_tokenize h ht
  rw [run, Run.stop, hcolumns, Text.units_append]

/-- What is left of a line holds its strings and then what is quoted in a comment.  `front`
has been left behind. -/
theorem quotedRunsFrom_laidOut (h : LaidOut start tokens text) (hstart : start = bytes front)
    (hfeed : '\n' ∉ text) :
    ∃ plain comment, text = plain ++ comment ∧ (∀ c ∈ comment.head?, c = '#') ∧
      (∀ t ∈ tokens, (run (front ++ text) t).stop ≤ units (front ++ plain)) ∧
      quotedRunsFrom (units front) none text =
        stringRuns (front ++ text) tokens ++
          quotedRunsFrom (units (front ++ plain)) none comment := by
  induction h generalizing front with
  | nil => exact ⟨[], [], rfl, nofun, nofun, rfl⟩
  | @gap start p tokens rest hfits hkind hrest ih =>
    rcases hkind with hblank | ⟨hcomment, hend⟩
    · have hquote : '"' ∉ p.source :=
        quote_not_mem_of_fits hfits (by simp [hblank]) (by simp [hblank])
      have hnext : start + bytes p.source = bytes (front ++ p.source) := by
        rw [hstart, Text.bytes_append]
      obtain ⟨plain, comment, rfl, hhead, hstops, hruns⟩ :=
        ih hnext fun hmem => hfeed (List.mem_append_right _ hmem)
      rw [List.append_assoc] at hstops hruns
      rw [List.append_assoc front p.source plain] at hstops hruns
      refine ⟨p.source ++ plain, comment, (List.append_assoc ..).symm, hhead, hstops, ?_⟩
      rw [quotedRunsFrom_plain hquote, ← Text.units_append, hruns]
    · -- a comment is the last piece of a line
      obtain rfl := hend.eq_nil fun hmem => hfeed (List.mem_append_right _ hmem)
      obtain rfl := hrest.eq_nil
      have hhead : ∀ c ∈ p.source.head?, c = '#' := head?_of_fits_comment (hcomment ▸ hfits)
      refine ⟨[], p.source ++ [], rfl, by simpa using hhead, nofun, ?_⟩
      simp [stringRuns]
  | @token start t tokens rest hfits hspan hrest ih =>
    rw [hstart] at hspan
    have hnext : start + bytes t.display = bytes (front ++ t.display) := by
      rw [hstart, Text.bytes_append]
    obtain ⟨plain, comment, rfl, hhead, hstops, hruns⟩ :=
      ih hnext fun hmem => hfeed (List.mem_append_right _ hmem)
    have hrun : run (front ++ (t.display ++ (plain ++ comment))) t = ⟨units front, t.display⟩ := by
      rw [← List.append_assoc]
      exact run_of_span hspan
    rw [List.append_assoc front t.display] at hstops hruns
    rw [List.append_assoc front t.display plain] at hstops hruns
    refine ⟨t.display ++ plain, comment, (List.append_assoc ..).symm, hhead, ?_, ?_⟩
    · refine List.forall_mem_cons.2 ⟨?_, hstops⟩
      rw [hrun, Text.units_append, Text.units_append, ← Nat.add_assoc]
      exact Nat.le_add_right _ _
    · rw [quotedRunsFrom_display hfits, stringRuns_cons, hrun, ← Text.units_append, hruns,
        List.append_assoc]

/-- **What is quoted in a line**: its strings, one by one, and then whatever is quoted in a
comment at its end. -/
theorem quotedRuns_of_tokenize (h : tokenize line = .ok tokens) (hfeed : '\n' ∉ line) :
    ∃ plain comment, line = plain ++ comment ∧ (∀ c ∈ comment.head?, c = '#') ∧
      (∀ t ∈ tokens, (run line t).stop ≤ units plain) ∧
      quotedRuns line =
        stringRuns line tokens ++ quotedRunsFrom (units plain) none comment := by
  have hstart : 0 = bytes [] := rfl
  exact quotedRunsFrom_laidOut (laidOut_of_tokenize h) hstart hfeed

/-- What is quoted in a comment starts behind its `#`. -/
theorem lt_start_of_mem_comment {comment : Text} {n : Nat} {r : Run}
    (hhead : ∀ c ∈ comment.head?, c = '#') (h : r ∈ quotedRunsFrom n none comment) :
    n < r.start := by
  cases comment with
  | nil => exact absurd h List.not_mem_nil
  | cons c rest =>
    obtain rfl := hhead c rfl
    rw [quotedRunsFrom, if_neg (by decide)] at h
    have hle := le_start_of_mem_quotedRunsFrom h
    exact Nat.lt_of_lt_of_le (Nat.lt_add_of_pos_right (Text.charUnits_pos '#')) hle

/-! ## The cursor on a string and elsewhere -/

/-- **The cursor on a string** is on what is quoted there.  Where two strings meet it is on
the one in front. -/
theorem quoted?_of_string (h : tokenize line = .ok tokens) (hfeed : '\n' ∉ line)
    (ht : t ∈ tokens) (hkind : t.kind = .string)
    (hstart : (run line t).start < column ∨ column = (run line t).start ∧
      ∀ s ∈ tokens, s.kind = .string → (run line s).stop ≠ column)
    (hstop : column ≤ (run line t).stop) : quoted? line column = some (run line t) := by
  obtain ⟨plain, comment, -, -, -, hruns⟩ := quotedRuns_of_tokenize h hfeed
  have hmem : run line t ∈ stringRuns line tokens := mem_stringRuns_iff.2 ⟨t, ht, hkind, rfl⟩
  have htouches : (run line t).touches column = true := by
    refine touches_iff.2 ⟨?_, hstop⟩
    rcases hstart with hlt | ⟨heq, -⟩
    · exact Nat.le_of_lt hlt
    · exact Nat.le_of_eq heq.symm
  obtain ⟨left, right, hsplit⟩ := List.append_of_mem hmem
  have hpairwise : (quotedRuns line).Pairwise (·.stop ≤ ·.start) :=
    pairwise_quotedRunsFrom 0 none line
  rw [hsplit, List.append_assoc, List.cons_append] at hruns
  rw [hruns] at hpairwise
  refine List.find?_eq_some_iff_append.2 ⟨htouches, left, _, hruns, ?_⟩
  -- a string in front stops before this one starts, or just there
  intro r hr
  have hle : r.stop ≤ (run line t).start :=
    (List.pairwise_append.1 hpairwise).2.2 r hr _ List.mem_cons_self
  have hleft : ¬ r.touches column = true := by
    rw [touches_iff]
    rintro ⟨-, hcolumn⟩
    rcases hstart with hlt | ⟨rfl, hfirst⟩
    · omega
    · obtain ⟨s, hs, hstring, rfl⟩ : ∃ s ∈ tokens, s.kind = .string ∧ run line s = r :=
        mem_stringRuns_iff.1 (hsplit ▸ List.mem_append_left _ hr)
      exact hfirst s hs hstring (Nat.le_antisymm hle hcolumn)
  simpa using hleft

/-- In a line nothing is quoted but its strings and what is behind the `#` of a comment. -/
theorem exists_plain (h : tokenize line = .ok tokens) (hfeed : '\n' ∉ line) :
    ∃ plain comment, line = plain ++ comment ∧ (∀ c ∈ comment.head?, c = '#') ∧
      (∀ t ∈ tokens, (run line t).stop ≤ units plain) ∧
      ∀ column, (comment ≠ [] → column ≤ units plain) →
        (∀ t ∈ tokens, t.kind = .string → ¬ (run line t).touches column = true) →
        quoted? line column = none := by
  obtain ⟨plain, comment, hline, hhead, hstops, hruns⟩ := quotedRuns_of_tokenize h hfeed
  refine ⟨plain, comment, hline, hhead, hstops, fun column hplain hout => ?_⟩
  rw [quoted?, hruns, List.find?_eq_none]
  intro r hr
  rcases List.mem_append.1 hr with hr | hr
  · obtain ⟨t, ht, hkind, rfl⟩ := mem_stringRuns_iff.1 hr
    exact hout t ht hkind
  · have hne : comment ≠ [] := by
      rintro rfl
      exact absurd hr List.not_mem_nil
    have hlt := lt_start_of_mem_comment hhead hr
    have hcolumn := hplain hne
    rw [touches_iff]
    omega

/-- **The cursor on no string** is on nothing quoted, unless it is in a comment. -/
theorem quoted?_eq_none (h : tokenize line = .ok tokens) (hfeed : '\n' ∉ line)
    (hout : ∀ t ∈ tokens, t.kind = .string → ¬ (run line t).touches column = true)
    (hbefore : BeforeComment line tokens column) : quoted? line column = none := by
  obtain ⟨plain, comment, hline, hhead, hstops, hnone⟩ := exists_plain h hfeed
  refine hnone column (fun hne => ?_) hout
  obtain ⟨c, rest, rfl⟩ := List.exists_cons_of_ne_nil hne
  obtain rfl := hhead c rfl
  refine hbefore plain rest hline fun t ht _ => ?_
  have hle := hstops t ht
  rw [← stop_run h ht]
  omega

/-- Up to the end of a token there is no comment. -/
theorem quoted?_eq_none_of_le (h : tokenize line = .ok tokens) (hfeed : '\n' ∉ line)
    (hout : ∀ t ∈ tokens, t.kind = .string → ¬ (run line t).touches column = true)
    (ht : t ∈ tokens) (hle : column ≤ (run line t).stop) : quoted? line column = none := by
  obtain ⟨plain, _, -, -, hstops, hnone⟩ := exists_plain h hfeed
  exact hnone column (fun _ => Nat.le_trans hle (hstops t ht)) hout

/-- **The quotes under the cursor are those of the lexer.**  With the cursor on a string, its
two ends included, the string is what is quoted there and what is shown, from its first
column to its last; where two strings meet, that is the one in front.  With the cursor on no
string and not behind a `#` that is in none, nothing is quoted. -/
theorem strings_under_cursor (h : tokenize line = .ok tokens) (hfeed : '\n' ∉ line) :
    (∀ t ∈ tokens, t.kind = .string → ∀ column,
      ((columns line t.span).start < column ∨ column = (columns line t.span).start ∧
        ∀ s ∈ tokens, s.kind = .string → (columns line s.span).stop ≠ column) →
      column ≤ (columns line t.span).stop →
      quoted? line column = some ⟨(columns line t.span).start, t.display⟩ ∧
        (columns line t.span).start + units t.display = (columns line t.span).stop ∧
        ∀ row, hoverAt? row line column = some ⟨.string t.display,
          .inRow row (columns line t.span).start (columns line t.span).stop⟩) ∧
    ∀ column, (∀ t ∈ tokens, t.kind = .string →
        ¬ ((columns line t.span).start ≤ column ∧ column ≤ (columns line t.span).stop)) →
      BeforeComment line tokens column → quoted? line column = none := by
  constructor
  · intro t ht hkind column hstart hstop
    rw [← stop_run h ht] at hstop
    have hfirst : (run line t).start < column ∨ column = (run line t).start ∧
        ∀ s ∈ tokens, s.kind = .string → (run line s).stop ≠ column := by
      refine hstart.imp_right (And.imp_right fun hfirst s hs hstring => ?_)
      rw [stop_run h hs]
      exact hfirst s hs hstring
    have hquoted := quoted?_of_string h hfeed ht hkind hfirst hstop
    have hfits : PieceKind.string.Fits t.display := by
      have hfits := (laidOut_of_tokenize h).fits t ht
      rwa [hkind] at hfits
    refine ⟨hquoted, stop_run h ht, fun row => ?_⟩
    rw [hoverAt?, hquoted, Option.some_or, Option.map_some, stop_run h ht]
    simp only [run, Subject.ofText_string hfits]
  · intro column hout hbefore
    refine quoted?_eq_none h hfeed (fun t ht hkind => ?_) hbefore
    rw [touches_iff, stop_run h ht]
    exact hout t ht hkind

/-- Two strings that meet behind a character of two code units, the second with a `#` in it,
and a comment with quotes. -/
theorem strings_under_cursor_touching :
    hoverAt? 0 "\"💪\"\"#\"1 # \"x\"".toList 4 =
        some ⟨.string "\"💪\"".toList, .inRow 0 0 4⟩ ∧
      hoverAt? 0 "\"💪\"\"#\"1 # \"x\"".toList 5 =
        some ⟨.string "\"#\"".toList, .inRow 0 4 7⟩ ∧
      quoted? "\"💪\"\"#\"1 # \"x\"".toList 9 = none := by
  have htokens : tokenize "\"💪\"\"#\"1 # \"x\"".toList =
      .ok [⟨.string, ['💪'], ⟨0, 6⟩⟩, ⟨.string, ['#'], ⟨6, 9⟩⟩, ⟨.number, ['1'], ⟨9, 10⟩⟩] := by
    decide +kernel
  obtain ⟨hon, hoff⟩ := strings_under_cursor htokens (by decide)
  refine ⟨?_, ?_, hoff 9 (by decide +kernel) (by decide +kernel)⟩
  · obtain ⟨-, -, hhover⟩ := hon _ List.mem_cons_self rfl 4 (by decide +kernel) (by decide +kernel)
    exact (hhover 0).trans (by decide +kernel)
  · obtain ⟨-, -, hhover⟩ := hon _ (List.mem_cons_of_mem _ List.mem_cons_self) rfl 5
      (by decide +kernel) (by decide +kernel)
    exact (hhover 0).trans (by decide +kernel)

end Line
end GymLang
