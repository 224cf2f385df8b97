import GymLang.Line.Analysis
import GymLang.Proofs.Command.Names
import GymLang.Proofs.Exec.Shapes
import GymLang.Proofs.Number.Reading
import GymLang.Proofs.Text.Columns
import GymLang.Proofs.Token.Layout

/-!
# Lines without faults

Analysis cuts a line into tokens, asks which command it names and carries it out with no
variable set.  What it accepts in the end is the language as it is documented: a line that
is empty but for blanks and comments, or a command in any letter case with the arguments
of that command (`faults_eq_nil_iff`).

* `faults_of_error`, `faults_of_nil`, `faults_of_not_word`, `faults_of_unknown`,
  `faults_of_command` — the faults of a line, by what it starts with.
* `exists_of_faults_eq_nil`, `exists_of_mem_faults` — what faults tell of carrying it out.
* `Accepts` — the lines of the documented language, as tokens.
-/

namespace GymLang

/-! ## Tokens of a line -/

namespace Token

variable {line : Text} {tokens : List Token} {t : Token}

/-- What is no string is written in a line as pieces of its kind are. -/
theorem fits_of_ne_string (h : tokenize line = .ok tokens) (ht : t ∈ tokens)
    (hkind : t.kind ≠ .string) : (pieceKind t.kind).Fits t.text := by
  rw [← display_eq_text hkind]
  exact (laidOut_of_tokenize h).fits t ht

/-- A word of a line is written as words are. -/
theorem fits_of_word (h : tokenize line = .ok tokens) (ht : t ∈ tokens) (hkind : t.kind = .word) :
    PieceKind.word.Fits t.text := by
  have hfits := fits_of_ne_string h ht (by rw [hkind]; decide)
  rwa [hkind] at hfits

/-- And a number as numbers are. -/
theorem fits_of_number (h : tokenize line = .ok tokens) (ht : t ∈ tokens)
    (hkind : t.kind = .number) : PieceKind.number.Fits t.text := by
  have hfits := fits_of_ne_string h ht (by rw [hkind]; decide)
  rwa [hkind] at hfits

/-- The numbers of a line can be read. -/
theorem readable_of_tokenize (h : tokenize line = .ok tokens) (ht : t ∈ tokens) : t.Readable :=
  fun hkind => Number.exists_read? (fits_of_number h ht hkind)

end Token

/-! ## Faults of a line -/

namespace Line

variable {line : Text} {first : Token} {args tokens : List Token} {f : Fault} {c : Command}

/-- The columns of a part of a line. -/
theorem columns_bytes (before v after : Text) :
    columns (before ++ v ++ after) ⟨Text.bytes before, Text.bytes (before ++ v)⟩ =
      ⟨Text.units before, Text.units (before ++ v)⟩ := by
  rw [columns, Text.columnOfByte_bytes, List.append_assoc, Text.columnOfByte_bytes]

/-- A token is written in the line where its span says. -/
theorem span_of_mem_tokenize {t : Token} (h : Token.tokenize line = .ok tokens)
    (ht : t ∈ tokens) : ∃ before after, line = before ++ t.display ++ after ∧
      t.span = ⟨Text.bytes before, Text.bytes (before ++ t.display)⟩ := by
  obtain ⟨before, after, hline, hspan⟩ := (Token.laidOut_of_tokenize h).spans t ht
  refine ⟨before, after, hline, ?_⟩
  rw [hspan, Nat.zero_add, Nat.zero_add]

/-- The columns of a token are those of what is written there. -/
theorem columns_of_mem_tokenize {t : Token} (h : Token.tokenize line = .ok tokens)
    (ht : t ∈ tokens) : ∃ before after, line = before ++ t.display ++ after ∧
      columns line t.span = ⟨Text.units before, Text.units (before ++ t.display)⟩ := by
  obtain ⟨before, after, hline, hspan⟩ := span_of_mem_tokenize h ht
  refine ⟨before, after, hline, ?_⟩
  rw [hspan, hline, columns_bytes]

theorem execution?_eq_some_iff : execution? Engine.standard line tokens = some f ↔
    ∃ e, Exec.lineEffect 0 ∅ tokens = .error e ∧ f = ⟨.execution, whole line, e.message⟩ := by
  simp only [execution?, Engine.standard, Exec.run_fst]
  cases Exec.lineEffect 0 ∅ tokens with
  | error e => simp [Except.map, eq_comm]
  | ok effect => simp [Except.map]

theorem execution?_eq_none_iff : execution? Engine.standard line tokens = none ↔
    Succeeds (Exec.lineEffect 0 ∅ tokens) := by
  simp only [execution?, Engine.standard, Exec.run_fst]
  cases Exec.lineEffect 0 ∅ tokens with
  | error e => simp [Except.map]
  | ok effect => simp [Except.map]

theorem unknownCommand?_of_named (h : Command.named? first.text = some c) :
    unknownCommand? line first = none := by
  rw [unknownCommand?, if_neg]
  rintro ⟨-, hnone⟩
  exact nomatch h.symm.trans hnone

theorem unknownCommand?_of_not_word (h : first.kind ≠ .word) :
    unknownCommand? line first = none := by
  rw [unknownCommand?, if_neg]
  exact fun hword => h hword.1

/-- The first word of a line says what is carried out. -/
theorem ofKeyword?_first (h : Token.tokenize line = .ok (first :: args))
    (hkind : first.kind = .word) :
    Command.ofKeyword? (Text.upper first.text) = Command.named? first.text :=
  Command.ofKeyword?_upper (Token.fits_of_word h List.mem_cons_self hkind)

theorem analyze_of_error {e : LexError} (h : Token.tokenize line = .error e) :
    analyze Engine.standard line = ⟨[], none, [⟨.lexical, whole line, e.message⟩]⟩ := by
  have hengine : Engine.standard.tokenize line = .error e := h
  simp only [analyze, hengine]

theorem analyze_of_cons (h : Token.tokenize line = .ok (first :: args)) :
    analyze Engine.standard line = ⟨first :: args, commandOf? first,
      (unknownCommand? line first).toList ++
        (execution? Engine.standard line (first :: args)).toList⟩ := by
  have hengine : Engine.standard.tokenize line = .ok (first :: args) := h
  simp only [analyze, hengine]

theorem faults_of_error {e : LexError} (h : Token.tokenize line = .error e) :
    (analyze Engine.standard line).faults = [⟨.lexical, whole line, e.message⟩] := by
  rw [analyze_of_error h]

theorem faults_of_nil (h : Token.tokenize line = .ok []) :
    (analyze Engine.standard line).faults = [] := by
  have hengine : Engine.standard.tokenize line = .ok [] := h
  simp only [analyze, hengine]

theorem faults_of_cons (h : Token.tokenize line = .ok (first :: args)) :
    (analyze Engine.standard line).faults =
      (unknownCommand? line first).toList ++
        (execution? Engine.standard line (first :: args)).toList := by
  rw [analyze_of_cons h]

/-- A line that starts with no word fails when it is carried out. -/
theorem faults_of_not_word (h : Token.tokenize line = .ok (first :: args))
    (hkind : first.kind ≠ .word) :
    (analyze Engine.standard line).faults =
      [⟨.execution, whole line, (ExecError.expectedCommand first.display).message⟩] := by
  have hexec : execution? Engine.standard line (first :: args) =
      some ⟨.execution, whole line, (ExecError.expectedCommand first.display).message⟩ :=
    execution?_eq_some_iff.2 ⟨_, Exec.lineEffect_of_not_word hkind, rfl⟩
  rw [faults_of_cons h, unknownCommand?_of_not_word hkind, hexec]
  rfl

/-- Carrying out a line that names no command is silent, so it has one fault only. -/
theorem faults_of_unknown (h : Token.tokenize line = .ok (first :: args))
    (hkind : first.kind = .word) (hnone : Command.named? first.text = none) :
    (analyze Engine.standard line).faults =
      [⟨.unknownCommand, columns line first.span, unknownCommandMessage first.text⟩] := by
  have hkeyword := (ofKeyword?_first h hkind).trans hnone
  have hexec : execution? Engine.standard line (first :: args) = none :=
    execution?_eq_none_iff.2 ⟨_, Exec.lineEffect_of_none hkind hkeyword⟩
  rw [faults_of_cons h, unknownCommand?, if_pos ⟨hkind, hnone⟩, hexec]
  rfl

/-- A line that names a command can only fail when it is carried out. -/
theorem faults_of_command (h : Token.tokenize line = .ok (first :: args))
    (hnamed : Command.named? first.text = some c) :
    (analyze Engine.standard line).faults =
      (execution? Engine.standard line (first :: args)).toList := by
  rw [faults_of_cons h, unknownCommand?_of_named hnamed, Option.toList_none, List.nil_append]

/-- It does not if the arguments are those of the command. -/
theorem faults_of_command_eq_nil_iff (h : Token.tokenize line = .ok (first :: args))
    (hkind : first.kind = .word) (hnamed : Command.named? first.text = some c) :
    (analyze Engine.standard line).faults = [] ↔ c.Documented args := by
  have hread : ∀ arg ∈ args, arg.Readable := fun arg harg =>
    Token.readable_of_tokenize h (List.mem_cons_of_mem first harg)
  have hkeyword := (ofKeyword?_first h hkind).trans hnamed
  rw [faults_of_command h hnamed, Option.toList_eq_nil_iff, execution?_eq_none_iff,
    Exec.lineEffect_of_some hkind hkeyword, Exec.succeeds_effectOf_iff hread]

/-- A line without faults has tokens, and does not fail with no variable set. -/
theorem exists_of_faults_eq_nil (h : (analyze Engine.standard line).faults = []) :
    ∃ tokens, Token.tokenize line = .ok tokens ∧ Succeeds (Exec.lineEffect 0 ∅ tokens) := by
  cases htokens : Token.tokenize line with
  | error e => exact absurd ((faults_of_error htokens).symm.trans h) (List.cons_ne_nil _ _)
  | ok tokens =>
    refine ⟨tokens, rfl, ?_⟩
    cases tokens with
    | nil => exact ⟨.nothing, rfl⟩
    | cons first args =>
      rw [faults_of_cons htokens, List.append_eq_nil_iff] at h
      exact execution?_eq_none_iff.1 (Option.toList_eq_nil_iff.1 h.2)

/-- A fault of carrying out a line is an error it comes to with no variable set. -/
theorem exists_of_mem_faults (h : f ∈ (analyze Engine.standard line).faults)
    (hkind : f.kind = .execution) :
    ∃ tokens e, Token.tokenize line = .ok tokens ∧ Exec.lineEffect 0 ∅ tokens = .error e ∧
      f.message = e.message := by
  cases htokens : Token.tokenize line with
  | error e =>
    rw [faults_of_error htokens, List.mem_singleton] at h
    subst h
    exact nomatch hkind
  | ok tokens =>
    cases tokens with
    | nil =>
      rw [faults_of_nil htokens] at h
      exact absurd h List.not_mem_nil
    | cons first args =>
      rw [faults_of_cons htokens, List.mem_append, Option.mem_toList, Option.mem_toList] at h
      rcases h with h | h
      · unfold unknownCommand? at h
        split at h
        · cases h
          exact nomatch hkind
        · exact nomatch h
      · obtain ⟨e, herror, rfl⟩ := execution?_eq_some_iff.1 h
        exact ⟨first :: args, e, rfl, herror, rfl⟩

/-! ## The documented language -/

/-- A line of the documented language: nothing but blanks and comments, or the keyword of a
command in any letter case with arguments that its documentation allows. -/
def Accepts : List Token → Prop
  | [] => True
  | head :: args => head.kind = .word ∧
      ∃ c : Command, Text.sameIgnoringCase c.word head.text = true ∧ c.Documented args

/-- **Analysis accepts the documented language.**  A line has no fault if and only if it can
be cut into tokens, and they are those of a line of the documented language. -/
theorem faults_eq_nil_iff (line : Text) :
    (analyze Engine.standard line).faults = [] ↔
      ∃ tokens, Token.tokenize line = .ok tokens ∧ Accepts tokens := by
  cases htokens : Token.tokenize line with
  | error e => simp [faults_of_error htokens]
  | ok tokens =>
    cases tokens with
    | nil => simp [faults_of_nil htokens, Accepts]
    | cons first args =>
      simp only [Except.ok.injEq, exists_eq_left', Accepts]
      by_cases hkind : first.kind = .word
      · cases hnamed : Command.named? first.text with
        | none =>
          rw [faults_of_unknown htokens hkind hnamed]
          refine ⟨nofun, ?_⟩
          rintro ⟨-, c, hsame, -⟩
          exact nomatch hnamed.symm.trans (Command.named?_eq_some_iff.2 hsame)
        | some c =>
          rw [faults_of_command_eq_nil_iff htokens hkind hnamed]
          constructor
          · exact fun h => ⟨hkind, c, Command.named?_eq_some_iff.1 hnamed, h⟩
          · rintro ⟨-, c', hsame, h⟩
            cases (Command.named?_eq_some_iff.2 hsame).symm.trans hnamed
            exact h
      · rw [faults_of_not_word htokens hkind]
        exact ⟨nofun, fun h => absurd h.1 hkind⟩

end Line
end GymLang
