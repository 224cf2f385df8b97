import GymLang.Proofs.Exec.Errors
import GymLang.Proofs.Line.Faults
import GymLang.Proofs.Line.Leading
import GymLang.Proofs.Token.FirstWord

/-!
# Letter case of keywords

A keyword may be written in any letter case.  Two tables are searched by different rules:
editing help folds the letters of ASCII and goes by its list of keywords, while a line is
carried out by the capitals of its first word, which are looked up among the words known
there.  On the words of the language they name the same commands, and so the letter case of
the first word makes no difference to anything but the word itself.

* `eq_or_isWordStart` — characters that differ in case only are letters.
* `fits_recased`, `Leads.recased` — a word in another letter case is a word, and leads the
  line as before.
* `run_recased` — it is carried out in the same way.
* `run_of_named?_none`, `run_alone` — what is no keyword does nothing, and a keyword alone fails.
* `analyze_recased` — a line has the same command and the same faults.
* `keywords_in_any_case` — **the two tables agree**, and what follows from it.
-/

namespace GymLang

open Token

/-! ## Characters and words -/

/-- Characters that differ in case only are letters. -/
theorem Text.eq_or_isWordStart {c d : Char} (h : c.toUpper = d.toUpper) :
    c = d ∨ isWordStart c = true ∧ isWordStart d = true := by
  rcases toUpper_eq_or c with hc | ⟨hc, hcu⟩ <;> rcases toUpper_eq_or d with hd | ⟨hd, hdu⟩
  · left
    rw [← hc, h, hd]
  · right
    rw [← hc, h]
    exact ⟨hdu, hd⟩
  · right
    rw [← hd, ← h]
    exact ⟨hc, hcu⟩
  · right
    exact ⟨hc, hd⟩

section

variable {w w' before after : Text} (hcase : Text.sameIgnoringCase w w' = true)
include hcase

theorem map_toUpper_eq : w.map Char.toUpper = w'.map Char.toUpper :=
  beq_iff_eq.1 hcase

/-- A word in another letter case is a word. -/
theorem fits_recased (h : PieceKind.word.Fits w) : PieceKind.word.Fits w' := by
  have hmap := map_toUpper_eq hcase
  cases h with
  | @word c u hstart hrun =>
    obtain ⟨d, v, rfl, hd, hv⟩ := List.map_eq_cons_iff.1 hmap.symm
    refine .word ?_ ?_
    · rcases Text.eq_or_isWordStart hd with rfl | ⟨hletter, -⟩
      · exact hstart
      · exact hletter
    · intro e he
      have hmem : e.toUpper ∈ u.map Char.toUpper := hv ▸ List.mem_map_of_mem he
      obtain ⟨e', he', heq⟩ := List.mem_map.1 hmem
      rcases Text.eq_or_isWordStart heq with rfl | ⟨-, hletter⟩
      · exact hrun e' he'
      · exact isWordPart_of_isWordStart hletter

theorem length_recased : w.length = w'.length := by
  simpa using congrArg List.length (map_toUpper_eq hcase)

theorem bytes_recased (h : PieceKind.word.Fits w) : Text.bytes w = Text.bytes w' := by
  rw [Text.bytes_eq_length h.toNat_lt, Text.bytes_eq_length (fits_recased hcase h).toNat_lt,
    length_recased hcase]

theorem units_recased (h : PieceKind.word.Fits w) : Text.units w = Text.units w' := by
  rw [Text.units_eq_length h.toNat_lt, Text.units_eq_length (fits_recased hcase h).toNat_lt,
    length_recased hcase]

theorem upper_recased (h : PieceKind.word.Fits w) : Text.upper w = Text.upper w' := by
  rw [Text.upper_eq_map h.toNat_lt, Text.upper_eq_map (fits_recased hcase h).toNat_lt,
    map_toUpper_eq hcase]

theorem named?_recased : Command.named? w = Command.named? w' := by
  rw [Command.named?_eq, Command.named?_eq, map_toUpper_eq hcase]

/-- A line that starts with a word starts with it in any letter case. -/
theorem Token.Leads.recased (h : Leads w after before) : Leads w' after before := by
  induction h with
  | word hfits hstops => exact .word (fits_recased hcase hfits) hstops
  | @gap p before hfits hgap hstops hleads ih =>
    refine .gap hfits hgap ⟨?_, ?_⟩ ih
    · cases before with
      | cons b before => exact hstops.goesOn
      | nil =>
        -- the word follows directly, and in any case it starts with no blank
        have hblank : p.kind = .blank := eq_blank_of_stops hleads.fits hgap hstops
        intro c hc
        rw [hblank]
        cases ih.fits with
        | word hstart _ =>
          cases hc
          exact isBlank_of_isWordStart hstart
    · intro hnumber
      simp [hnumber] at hgap

end

/-! ## Carrying out -/

namespace Exec

variable {roll : Fin 100} {ctx : Context} {head head' : Token} {args : List Token} {c : Command}

theorem lineEffect_of_upper (hkind : head.kind = .word) (hkind' : head'.kind = .word)
    (hupper : Text.upper head.text = Text.upper head'.text) :
    lineEffect roll ctx (head :: args) = lineEffect roll ctx (head' :: args) := by
  simp only [lineEffect, hkind, hkind', hupper]

/-- A line does the same with its first word in any letter case. -/
theorem run_recased (hkind : head.kind = .word) (hkind' : head'.kind = .word)
    (hfits : PieceKind.word.Fits head.text)
    (hcase : Text.sameIgnoringCase head.text head'.text = true) :
    run roll (head :: args) ctx = run roll (head' :: args) ctx := by
  simp only [run, lineEffect_of_upper hkind hkind' (upper_recased hcase hfits)]

/-- Every command wants arguments. -/
theorem effectOf_nil (roll : Fin 100) (ctx : Context) (w : Text) (c : Command) :
    effectOf roll ctx w c [] = .error (.arity w ⟨c.shape, 0⟩) := by
  cases c <;> rfl

/-- Such an error is told with the word of the command in front. -/
theorem prefix_message_arity (w : Text) (count : Mismatch) :
    w <+: (ExecError.arity w count).message := by
  have hmessage : (ExecError.arity w count).message = w ++ " expects ".toList ++
      count.expected.description.toList ++ ", got ".toList ++ Nat.toDigits 10 count.found := rfl
  rw [hmessage]
  simp only [List.append_assoc]
  exact List.prefix_append w _

theorem run_of_named?_none (hkind : head.kind = .word) (hfits : PieceKind.word.Fits head.text)
    (hnone : Command.named? head.text = none) : run roll (head :: args) ctx = (.ok [], ctx) := by
  have hkeyword := (Command.ofKeyword?_upper hfits).trans hnone
  simp only [run, lineEffect_of_none hkind hkeyword]
  rfl

theorem run_alone (hkind : head.kind = .word) (hfits : PieceKind.word.Fits head.text)
    (hsome : Command.named? head.text = some c) :
    run roll [head] ctx = (.error (.arity c.word ⟨c.shape, 0⟩), ctx) := by
  have hkeyword := (Command.ofKeyword?_upper hfits).trans hsome
  have hword : c.word = Text.upper head.text := Command.word_of_ofKeyword? hkeyword
  simp only [run, lineEffect_of_some hkind hkeyword, effectOf_nil, hword]

end Exec

/-! ## Analysis -/

namespace Line

section

variable {w w' before after : Text} (hleads : Leads w after before)
  (hcase : Text.sameIgnoringCase w w' = true)
include hleads hcase

theorem whole_recased : whole (before ++ w' ++ after) = whole (before ++ w ++ after) := by
  simp [whole, units_recased hcase hleads.fits]

/-- What the line is made of but for the word: tokens behind it, or an error. -/
theorem tokenize_recased :
    (∃ e, tokenize (before ++ w ++ after) = .error e ∧
      tokenize (before ++ w' ++ after) = .error e) ∨
    ∃ args, tokenize (before ++ w ++ after) =
        .ok (⟨.word, w, ⟨Text.bytes before, Text.bytes (before ++ w)⟩⟩ :: args) ∧
      tokenize (before ++ w' ++ after) =
        .ok (⟨.word, w', ⟨Text.bytes before, Text.bytes (before ++ w')⟩⟩ :: args) := by
  have hw := hleads.tokensFrom_eq 0
  have hw' := (hleads.recased hcase).tokensFrom_eq 0
  have hbytes : Text.bytes (before ++ w') = Text.bytes (before ++ w) := by
    simp [bytes_recased hcase hleads.fits]
  simp only [Nat.zero_add] at hw hw'
  rw [tokenize_eq_tokensFrom, tokenize_eq_tokensFrom, hw, hw', hbytes]
  cases tokensFrom (Text.bytes (before ++ w)) after with
  | error e => exact .inl ⟨e, rfl, rfl⟩
  | ok args => exact .inr ⟨args, rfl, rfl⟩

theorem unknownCommand?_recased :
    unknownCommand? (before ++ w' ++ after)
        ⟨.word, w', ⟨Text.bytes before, Text.bytes (before ++ w')⟩⟩ =
      unknownCommand? (before ++ w ++ after)
        ⟨.word, w, ⟨Text.bytes before, Text.bytes (before ++ w)⟩⟩ := by
  have hunits : Text.units (before ++ w') = Text.units (before ++ w) := by
    simp [units_recased hcase hleads.fits]
  have hmessage : unknownCommandMessage w' = unknownCommandMessage w := by
    unfold unknownCommandMessage
    rw [upper_recased hcase hleads.fits]
  rw [unknownCommand?, unknownCommand?, columns_bytes, columns_bytes, hunits, hmessage,
    named?_recased hcase]

theorem execution?_recased (args : List Token) (s s' : Span) :
    execution? Engine.standard (before ++ w' ++ after) (⟨.word, w', s'⟩ :: args) =
      execution? Engine.standard (before ++ w ++ after) (⟨.word, w, s⟩ :: args) := by
  have hrun : Exec.run 0 (⟨.word, w, s⟩ :: args) ∅ = Exec.run 0 (⟨.word, w', s'⟩ :: args) ∅ :=
    Exec.run_recased rfl rfl hleads.fits hcase
  simp only [execution?, Engine.standard, hrun, whole_recased hleads hcase]

/-- **A line has the same command and the same faults** with its first word in any letter
case. -/
theorem analyze_recased :
    (analyze Engine.standard (before ++ w' ++ after)).command =
        (analyze Engine.standard (before ++ w ++ after)).command ∧
      (analyze Engine.standard (before ++ w' ++ after)).faults =
        (analyze Engine.standard (before ++ w ++ after)).faults := by
  rcases tokenize_recased hleads hcase with ⟨e, he, he'⟩ | ⟨args, hargs, hargs'⟩
  · rw [analyze_of_error he, analyze_of_error he', whole_recased hleads hcase]
    exact ⟨rfl, rfl⟩
  · rw [analyze_of_cons hargs, analyze_of_cons hargs', unknownCommand?_recased hleads hcase,
      execution?_recased hleads hcase]
    exact ⟨by simp [commandOf?, named?_recased hcase], rfl⟩

theorem leading_recased :
    (leading Engine.standard (before ++ w' ++ after)).toOption =
      (leading Engine.standard (before ++ w ++ after)).toOption := by
  rcases tokenize_recased hleads hcase with ⟨e, he, he'⟩ | ⟨args, hargs, hargs'⟩
  · rw [leading_of_error he, leading_of_error he']
  · cases hnamed : Command.named? w with
    | none =>
      have hnamed' : Command.named? w' = none := (named?_recased hcase).symm.trans hnamed
      rw [leading_of_unknown hargs rfl hnamed, leading_of_unknown hargs' rfl hnamed']
      rfl
    | some c =>
      have hnamed' : Command.named? w' = some c := (named?_recased hcase).symm.trans hnamed
      rw [leading_of_command hargs rfl hnamed, leading_of_command hargs' rfl hnamed']

end

/-- **Keywords in any letter case.**  The two tables agree on every word of the language.  A
word that names no command for editing help does nothing when it is carried out, whatever its
arguments are.  A word that does is carried out as the keyword of the command, and without
arguments it fails with an error that starts with the keyword.  So in the line a word leads, be
it made of tokens or not, its letter case has no influence on the command that leads the line
and on the faults of the line. -/
theorem keywords_in_any_case :
    (∀ (roll : Fin 100) (head : Token) (args : List Token) (ctx : Context),
      head.kind = .word → PieceKind.word.Fits head.text →
        Command.ofKeyword? (Text.upper head.text) = Command.named? head.text ∧
        (Command.named? head.text = none →
          Exec.run roll (head :: args) ctx = (.ok [], ctx)) ∧
        ∀ c, Command.named? head.text = some c →
          (∀ keyword : Token, keyword.kind = .word → keyword.text = c.word →
            Exec.run roll (head :: args) ctx = Exec.run roll (keyword :: args) ctx) ∧
          Exec.run roll [head] ctx = (.error (.arity c.word ⟨c.shape, 0⟩), ctx) ∧
          c.word <+: (ExecError.arity c.word ⟨c.shape, 0⟩).message) ∧
    (∀ line first args, tokenize line = .ok (first :: args) → first.kind = .word →
      ∃ before after, line = before ++ first.text ++ after ∧ Leads first.text after before) ∧
    ∀ before w after w', Leads w after before → Text.sameIgnoringCase w w' = true →
      (analyze Engine.standard (before ++ w' ++ after)).command =
          (analyze Engine.standard (before ++ w ++ after)).command ∧
        (analyze Engine.standard (before ++ w' ++ after)).faults =
          (analyze Engine.standard (before ++ w ++ after)).faults ∧
        (leading Engine.standard (before ++ w' ++ after)).toOption =
          (leading Engine.standard (before ++ w ++ after)).toOption := by
  refine ⟨?_, ?_, ?_⟩
  · intro roll head args ctx hkind hfits
    refine ⟨Command.ofKeyword?_upper hfits,
      fun hnone => Exec.run_of_named?_none hkind hfits hnone, fun c hsome => ?_⟩
    have hcase : Text.sameIgnoringCase c.word head.text = true :=
      Command.named?_eq_some_iff.1 hsome
    refine ⟨?_, Exec.run_alone hkind hfits hsome, ?_⟩
    · intro keyword hkeyword hword
      refine Exec.run_recased hkind hkeyword hfits ?_
      rw [hword, Text.sameIgnoringCase, beq_iff_eq]
      exact (map_toUpper_eq hcase).symm
    · exact Exec.prefix_message_arity c.word ⟨c.shape, 0⟩
  · intro line first args h hkind
    obtain ⟨before, after, hline, hleads, -⟩ := leads_of_tokenize h hkind
    exact ⟨before, after, hline, hleads⟩
  · intro before w after w' hleads hcase
    obtain ⟨hcommand, hfaults⟩ := analyze_recased hleads hcase
    exact ⟨hcommand, hfaults, leading_recased hleads hcase⟩

/-- A keyword in mixed case, a word that is no keyword, and a line with a fault behind its
first word. -/
theorem keywords_in_any_case_mixed :
    Exec.run 41 [⟨.word, "rAcK".toList, ⟨0, 4⟩⟩, ⟨.string, ['x'], ⟨5, 8⟩⟩] ∅ =
        Exec.run 41 [⟨.word, "RACK".toList, ⟨0, 4⟩⟩, ⟨.string, ['x'], ⟨5, 8⟩⟩] ∅ ∧
      Exec.run 41 [⟨.word, "rAcK".toList, ⟨0, 4⟩⟩] ∅ =
        (.error (.arity "RACK".toList ⟨.update, 0⟩), ∅) ∧
      Exec.run 41 [⟨.word, "rak".toList, ⟨0, 3⟩⟩, ⟨.string, ['x'], ⟨4, 7⟩⟩] ∅ = (.ok [], ∅) ∧
      (∃ before after, "\tflex x".toList = before ++ "flex".toList ++ after ∧
        Leads "flex".toList after before) ∧
      (analyze Engine.standard "\tFLEX @".toList).faults =
        (analyze Engine.standard "\tflex @".toList).faults := by
  obtain ⟨hexec, hleads, hcase⟩ := keywords_in_any_case
  have hrack : PieceKind.word.Fits "rAcK".toList := .word rfl (List.all_eq_true.1 rfl)
  have hrak : PieceKind.word.Fits "rak".toList := .word rfl (List.all_eq_true.1 rfl)
  have hflex : PieceKind.word.Fits "flex".toList := .word rfl (List.all_eq_true.1 rfl)
  have htab : Leads "flex".toList " @".toList ['\t'] := by
    refine .gap (p := ⟨.blank, ['\t']⟩) ?_ (.inl rfl) ⟨?_, nofun⟩ ?_
    · exact .blank (List.cons_ne_nil _ _) (List.all_eq_true.1 rfl)
    · intro c hc
      cases hc
      rfl
    · exact .word hflex (PieceKind.stops_blank (k := .word) nofun nofun ['@'])
  refine ⟨?_, ?_, ?_, ?_, ?_⟩
  · exact ((hexec 41 _ _ ∅ rfl hrack).2.2 .rack rfl).1 ⟨.word, "RACK".toList, ⟨0, 4⟩⟩ rfl rfl
  · exact ((hexec 41 _ [] ∅ rfl hrack).2.2 .rack rfl).2.1
  · exact (hexec 41 _ _ ∅ rfl hrak).2.1 (by decide)
  · exact hleads _ ⟨.word, "flex".toList, ⟨1, 5⟩⟩ [⟨.word, ['x'], ⟨6, 7⟩⟩] (by decide +kernel) rfl
  · exact (hcase ['\t'] "flex".toList " @".toList "FLEX".toList htab rfl).2.1

end Line
end GymLang
