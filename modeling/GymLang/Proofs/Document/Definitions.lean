import GymLang.Editor.Definition
import GymLang.Proofs.Document.Cursor
import GymLang.Proofs.Document.Rowwise
import GymLang.Proofs.Line.Faults
import GymLang.Proofs.Line.Leading
import GymLang.Proofs.Token.FirstWord

/-!
# Definitions and outlines

A definition is looked for from the word under the cursor, which is read off the characters
of the line, and found by the first tokens of lines.  Both ways meet in the outline: the
definition of a command is its first entry there, and the cursor is on a keyword wherever it
is on the token that leads a line.

* `OnKeyword`, `IsFirst` — the command whose keyword the cursor is on, and the first entry
  of an outline with a keyword.
* `definition?_eq_some_iff` — a definition is the range of such an entry.
* `onKeyword_of_leading` — the cursor on the token that leads a line is on its keyword.
* `definition_in_outline` — **definitions agree with the outline**, and every entry of an
  outline leads to one.
-/

namespace GymLang
namespace Document

variable {engine : Engine} {t line : Text} {p : Position} {r : Range} {e : Entry} {c : Command}
  {entries : List Entry}

/-- The cursor is on a word that is the keyword of `c` up to letter case. -/
def OnKeyword (t : Text) (p : Position) (c : Command) : Prop :=
  ∃ line w, (Text.rows t)[p.line]? = some line ∧ Cursor.IsWord line w ∧
    w.touches p.character = true ∧ Text.sameIgnoringCase c.word w.text = true

/-- The first entry that has a keyword for its name. -/
def IsFirst (keyword : String) (entries : List Entry) (e : Entry) : Prop :=
  ∃ above below, entries = above ++ e :: below ∧ e.command.keyword = keyword ∧
    ∀ d ∈ above, d.command.keyword ≠ keyword

/-! ## The first entry -/

/-- The first use of a command is its first entry in the outline. -/
theorem firstUse?_eq_find? (engine : Engine) (c : Command) (row : Nat) (lines : List Text) :
    firstUse? engine c row lines =
      ((outlineFrom engine row lines).find? (·.command = c)).map Entry.range := by
  induction lines generalizing row with
  | nil => rfl
  | cons line lines ih =>
    rw [firstUse?, outlineFrom]
    cases Line.leading engine line with
    | error s => exact ih (row + 1)
    | ok d =>
      by_cases hd : d = c
      · simp [hd]
      · simp [hd, ih (row + 1)]

theorem keyword_eq_iff : e.command.keyword = c.keyword ↔ e.command = c :=
  ⟨Command.keyword_injective, congrArg Command.keyword⟩

theorem find?_eq_some_iff_isFirst :
    entries.find? (·.command = c) = some e ↔ IsFirst c.keyword entries e := by
  rw [List.find?_eq_some_iff_append]
  simp only [IsFirst, ne_eq, keyword_eq_iff, decide_eq_true_eq, Bool.not_eq_eq_eq_not,
    Bool.not_true, decide_eq_false_iff_not]
  constructor
  · rintro ⟨hcommand, above, below, hentries, habove⟩
    exact ⟨above, below, hentries, hcommand, habove⟩
  · rintro ⟨above, below, hentries, hcommand, habove⟩
    exact ⟨hcommand, above, below, hentries, habove⟩

theorem IsFirst.mem {keyword : String} (h : IsFirst keyword entries e) : e ∈ entries := by
  obtain ⟨above, below, rfl, -, -⟩ := h
  exact List.mem_append_right _ List.mem_cons_self

theorem IsFirst.command (h : IsFirst c.keyword entries e) : e.command = c := by
  obtain ⟨-, -, -, hkeyword, -⟩ := h
  exact keyword_eq_iff.1 hkeyword

/-- An entry with a keyword is the first one, or comes after it. -/
theorem exists_isFirst (he : e ∈ entries) (hcommand : e.command = c) :
    ∃ d, IsFirst c.keyword entries d := by
  obtain ⟨d, hd⟩ : ∃ d, entries.find? (·.command = c) = some d :=
    Option.isSome_iff_exists.1 (List.find?_isSome.2 ⟨e, he, decide_eq_true hcommand⟩)
  exact ⟨d, find?_eq_some_iff_isFirst.1 hd⟩

/-- The first entry in an outline stands in no later row than any other of its command. -/
theorem IsFirst.le {d : Entry} (h : IsFirst c.keyword (outline engine t) d)
    (he : e ∈ outline engine t) (hcommand : e.command = c) :
    d.range.start.line ≤ e.range.start.line := by
  obtain ⟨above, below, hentries, -, habove⟩ := h
  have hpairwise : (outline engine t).Pairwise fun d e =>
      d.range.start.line < e.range.start.line := pairwise_outline
  rw [hentries] at he hpairwise
  rcases List.mem_append.1 he with he | he
  · exact absurd (congrArg Command.keyword hcommand) (habove e he)
  · rcases List.mem_cons.1 he with rfl | he
    · exact Nat.le_refl _
    · have hbelow := (List.pairwise_append.1 hpairwise).2.1
      exact Nat.le_of_lt ((List.pairwise_cons.1 hbelow).1 e he)

/-- **A definition is the range of the first entry** with the keyword under the cursor. -/
theorem definition?_eq_some_iff : definition? engine t p = some r ↔
    ∃ c e, OnKeyword t p c ∧ IsFirst c.keyword (outline engine t) e ∧ e.range = r := by
  unfold definition?
  simp only [Option.bind_eq_bind, Option.bind_eq_some_iff, Cursor.word?_eq_some_iff,
    Command.named?_eq_some_iff, firstUse?_eq_find?, Option.map_eq_some_iff]
  constructor
  · rintro ⟨line, hline, w, ⟨hword, htouches⟩, c, hcase, e, he, hrange⟩
    exact ⟨c, e, ⟨line, w, hline, hword, htouches, hcase⟩, find?_eq_some_iff_isFirst.1 he, hrange⟩
  · rintro ⟨c, e, ⟨line, w, hline, hword, htouches, hcase⟩, he, hrange⟩
    exact ⟨line, hline, w, ⟨hword, htouches⟩, c, hcase, e, find?_eq_some_iff_isFirst.2 he, hrange⟩

/-! ## The token that leads a line -/

/-- The word that a line starts with is a word of the line. -/
theorem isWord_of_leads {w after before : Text} (h : Token.Leads w after before) :
    Cursor.IsWord (before ++ w ++ after) ⟨Text.units before, w⟩ :=
  .intro (Token.fits_ne_nil h.fits) h.fits.isWordPart h.getLast?_before h.head?_after

/-- **The cursor on the token that leads a line is on its keyword**, from the column the
token starts at to that behind it. -/
theorem onKeyword_of_leading {first : Token} {args : List Token}
    (hline : (Text.rows t)[p.line]? = some line)
    (htokens : Token.tokenize line = .ok (first :: args)) (hkind : first.kind = .word)
    (hnamed : Command.named? first.text = some c)
    (hstart : (Line.columns line first.span).start ≤ p.character)
    (hstop : p.character ≤ (Line.columns line first.span).stop) : OnKeyword t p c := by
  obtain ⟨before, after, rfl, hleads, hspan⟩ := Token.leads_of_tokenize htokens hkind
  rw [hspan, Line.columns_bytes] at hstart hstop
  refine ⟨_, _, hline, isWord_of_leads hleads, ?_, Command.named?_eq_some_iff.1 hnamed⟩
  rw [Text.units_append] at hstop
  exact Cursor.touches_iff.2 ⟨hstart, hstop⟩

/-- **Definitions agree with the outline.**  With any engine, there is a definition just if
the cursor is on a keyword that an entry of the outline has for its name, and it is the range
of the first such entry.  With the language itself, every entry has a definition: with the
cursor anywhere on the token that leads its row, the definition is the whole of a row that is
no later and is led by the same command. -/
theorem definition_in_outline :
    (∀ engine t p r, definition? engine t p = some r ↔
      ∃ c e, OnKeyword t p c ∧ IsFirst c.keyword (outline engine t) e ∧ e.range = r) ∧
    (∀ engine t p, (definition? engine t p).isSome = true ↔
      ∃ c, OnKeyword t p c ∧ ∃ e ∈ outline engine t, e.command.keyword = c.keyword) ∧
    ∀ t, ∀ e ∈ outline Engine.standard t, ∃ line first args,
      (Text.rows t)[e.range.start.line]? = some line ∧
      Token.tokenize line = .ok (first :: args) ∧ first.kind = .word ∧
      Command.named? first.text = some e.command ∧
      ∀ column, (Line.columns line first.span).start ≤ column →
        column ≤ (Line.columns line first.span).stop →
        ∃ row found, row ≤ e.range.start.line ∧ (Text.rows t)[row]? = some found ∧
          Line.leading Engine.standard found = .ok e.command ∧
          definition? Engine.standard t ⟨e.range.start.line, column⟩ =
            some (Range.ofRow row found) := by
  refine ⟨fun engine t p r => definition?_eq_some_iff, ?_, ?_⟩
  · intro engine t p
    rw [Option.isSome_iff_exists]
    constructor
    · rintro ⟨r, hr⟩
      obtain ⟨c, e, hcursor, hfirst, -⟩ := definition?_eq_some_iff.1 hr
      exact ⟨c, hcursor, e, hfirst.mem, keyword_eq_iff.2 hfirst.command⟩
    · rintro ⟨c, hcursor, e, he, hkeyword⟩
      obtain ⟨d, hd⟩ := exists_isFirst he (keyword_eq_iff.1 hkeyword)
      exact ⟨d.range, definition?_eq_some_iff.2 ⟨c, d, hcursor, hd, rfl⟩⟩
  · intro t e he
    obtain ⟨row, line, hline, hleading, hrange⟩ := mem_outline_iff.1 he
    obtain ⟨first, args, htokens, hkind, hnamed⟩ := Line.leading_eq_ok_iff.1 hleading
    have hrow : e.range.start.line = row := by rw [hrange]; rfl
    rw [hrow]
    refine ⟨line, first, args, hline, htokens, hkind, hnamed, ?_⟩
    intro column hstart hstop
    have hcursor : OnKeyword t ⟨row, column⟩ e.command :=
      onKeyword_of_leading hline htokens hkind hnamed hstart hstop
    -- the entry itself shows that there is a first one, in whatever row that stands
    obtain ⟨d, hfirst⟩ := exists_isFirst he rfl
    obtain ⟨row', found, hfound, hleading', hrange'⟩ := mem_outline_iff.1 hfirst.mem
    have hle := hfirst.le he rfl
    rw [hrange', hrow] at hle
    refine ⟨row', found, hle, hfound, hfirst.command ▸ hleading', ?_⟩
    rw [← hrange']
    exact definition?_eq_some_iff.2 ⟨e.command, d, hcursor, hfirst, rfl⟩

/-- The cursor is behind a keyword that an earlier row has in small letters after a tab. -/
theorem definition_in_outline_earlier :
    ∃ row found, row ≤ 2 ∧ (Text.rows "@\n\tflex x\nFLEX\"y\"".toList)[row]? = some found ∧
      Line.leading Engine.standard found = .ok .flex ∧
      definition? Engine.standard "@\n\tflex x\nFLEX\"y\"".toList ⟨2, 4⟩ =
        some (Range.ofRow row found) := by
  have hentry : (⟨.flex, Range.ofRow 2 "FLEX\"y\"".toList⟩ : Entry) ∈
      outline Engine.standard "@\n\tflex x\nFLEX\"y\"".toList := by decide +kernel
  obtain ⟨line, first, args, hline, htokens, -, -, hcursor⟩ :=
    definition_in_outline.2.2 _ _ hentry
  have hrow : (Text.rows "@\n\tflex x\nFLEX\"y\"".toList)[2]? = some "FLEX\"y\"".toList := by
    decide +kernel
  obtain rfl : line = "FLEX\"y\"".toList := Option.some.inj (hline.symm.trans hrow)
  have hflex : Token.tokenize "FLEX\"y\"".toList =
      .ok [⟨.word, "FLEX".toList, ⟨0, 4⟩⟩, ⟨.string, ['y'], ⟨4, 7⟩⟩] := by decide +kernel
  obtain ⟨rfl, -⟩ := List.cons.inj (Except.ok.inj (htokens.symm.trans hflex))
  exact hcursor 4 (by decide) (by decide)

end Document
end GymLang
