import GymLang.Proofs.Token.Layout

/-!
# Where a line goes wrong

A line without tokens has an error instead, at the place where longest match comes to a
stop.  Here it is said without the lexer what is true of that place.

* `firstPiece?_eq_none_iff` — the lexer stops just where no piece starts.
* `quote_not_mem_of_startsNoPiece`, `leadsNoPiece_or_of_startsNoPiece` — the texts that start
  with none: those that start with a quote without a closing one, with a character that no
  piece starts with, or with a lone minus sign.
* `tokenize_error_located` — **the error of a line is its first**, and says what is wrong.
-/

namespace GymLang

open Text (bytes isDigit)

/-- No piece of any kind stands at the start of a text. -/
def Token.StartsNoPiece (t : Text) : Prop :=
  ∀ (k : PieceKind) (s : Text), k.Fits s → ¬ s <+: t

/-- No piece of any kind has a character for its first. -/
def Token.LeadsNoPiece (c : Char) : Prop := ∀ (k : PieceKind) (s : Text), ¬ k.Fits (c :: s)

/-- What an error says of the text that it is about and of what stands behind that. -/
def LexError.Explains : LexError → Text → Text → Prop
  | .unterminated _, found, after =>
    ∃ body, found = '"' :: body ∧ '"' ∉ body ∧ '\n' ∉ body ∧ Token.AtLineEnd after
  | .unexpected c _, found, after =>
    found = [c] ∧ (Token.LeadsNoPiece c ∨ c = '-' ∧ ∀ d ∈ after.head?, isDigit d = false)

namespace Token

/-! ## Where no piece starts -/

variable {p : Piece} {t rest line : Text} {c : Char} {e : LexError}

/-- **The lexer stops just where no piece starts.** -/
theorem firstPiece?_eq_none_iff : firstPiece? t = none ↔ StartsNoPiece t := by
  constructor
  · rintro hnone k s hfits ⟨after, rfl⟩
    obtain ⟨more, rest, hsome⟩ := hfits.extends_firstPiece? after
    exact absurd (hsome.symm.trans hnone) (Option.some_ne_none _)
  · intro h
    cases hfirst : firstPiece? t with
    | none => rfl
    | some found =>
      obtain ⟨p, rest⟩ := found
      exact absurd ⟨rest, append_of_firstPiece? hfirst⟩ (h _ _ (fits_of_firstPiece? hfirst))

/-- A quote that starts no string has no other behind it in its line. -/
theorem quote_not_mem_of_startsNoPiece (h : StartsNoPiece ('"' :: rest)) :
    '"' ∉ rest.takeWhile inLine := by
  intro hmem
  obtain ⟨body, more, hbody, hquote⟩ := List.eq_append_cons_of_mem hmem
  have hfeed : '\n' ∉ body := by
    intro hfeed
    have hline : '\n' ∈ rest.takeWhile inLine := hbody ▸ List.mem_append_left _ hfeed
    exact absurd (List.all_eq_true.1 List.all_takeWhile _ hline) (by decide)
  refine h .string _ (.string hquote hfeed) ⟨more ++ rest.dropWhile inLine, ?_⟩
  calc '"' :: body ++ ['"'] ++ (more ++ rest.dropWhile inLine)
      = '"' :: (body ++ '"' :: more ++ rest.dropWhile inLine) := by simp
    _ = '"' :: rest := by rw [← hbody, List.takeWhile_append_dropWhile]

/-- Any other character that starts no piece is the first of none anywhere, or it is a minus
sign with no digit behind it. -/
theorem leadsNoPiece_or_of_startsNoPiece (h : StartsNoPiece (c :: rest)) (hc : c ≠ '"') :
    LeadsNoPiece c ∨ c = '-' ∧ ∀ d ∈ rest.head?, isDigit d = false := by
  have halone : ∀ k : PieceKind, ¬ k.Fits [c] := fun k hfits => h k [c] hfits ⟨rest, rfl⟩
  by_cases hminus : c = '-'
  · subst hminus
    refine .inr ⟨rfl, fun d hd => Bool.eq_false_iff.2 fun hdigit => ?_⟩
    obtain ⟨more, rfl⟩ := List.head?_eq_some_iff.1 hd
    have hnumber : PieceKind.number.Fits ['-', d] :=
      .negative (.whole ⟨List.cons_ne_nil _ _, List.forall_mem_singleton.2 hdigit⟩)
    exact h .number _ hnumber ⟨more, rfl⟩
  · refine .inl fun k s hfits => ?_
    generalize hs : c :: s = u at hfits
    cases hfits with
    | blank _ hrun =>
      subst hs
      have hblank : isBlank c = true := hrun c List.mem_cons_self
      exact halone .blank (.blank (List.cons_ne_nil _ _) (List.forall_mem_singleton.2 hblank))
    | comment _ =>
      obtain ⟨rfl, -⟩ := List.cons.inj hs
      exact halone .comment (.comment List.not_mem_nil)
    | string _ _ => exact hc (List.cons.inj hs).1
    | number hu =>
      obtain ⟨d, v, rfl, hd⟩ := startsWith_of_unsigned hu
      obtain ⟨rfl, -⟩ := List.cons.inj hs
      refine halone .number (.number (.whole ⟨List.cons_ne_nil _ _, ?_⟩))
      exact List.forall_mem_singleton.2 hd
    | negative _ => exact hminus (List.cons.inj hs).1
    | word hstart _ =>
      obtain ⟨rfl, -⟩ := List.cons.inj hs
      exact halone .word (.word hstart (List.forall_mem_nil _))

/-! ## The error of a line -/

/-- What the lexer leaves of a line starts with no piece. -/
theorem startsNoPiece_left (t : Text) : StartsNoPiece (pieces t).2 := by
  fun_induction pieces t with
  | case1 t hnone => exact firstPiece?_eq_none_iff.1 hnone
  | case2 t p rest _ ih => exact ih

theorem tokenize_eq_error_iff : tokenize line = .error e ↔
    ∃ c rest, (pieces line).2 = c :: rest ∧
      e = errorAt (bytes (Text.ofPieces (pieces line).1)) c rest := by
  unfold tokenize
  cases pieces line with
  | mk ps left =>
    cases left with
    | nil => simp
    | cons c rest => simp [eq_comm]

/-- What an error is about: a string up to the end of its line, or a single character. -/
theorem errorAt_explains (h : StartsNoPiece (c :: rest)) (start : Nat) :
    ∃ found after, c :: rest = found ++ after ∧ found.head? = some c ∧
      (errorAt start c rest).span = ⟨start, start + bytes found⟩ ∧
      (errorAt start c rest).Explains found after ∧
      ((∃ s, errorAt start c rest = .unterminated s) ↔ c = '"') := by
  by_cases hc : c = '"'
  · subst hc
    have hfeed : '\n' ∉ rest.takeWhile inLine := fun hmem =>
      absurd (List.all_eq_true.1 List.all_takeWhile _ hmem) (by decide)
    have hend : AtLineEnd (rest.dropWhile inLine) := by
      intro d hd
      have hstop := List.head?_dropWhile_not inLine rest
      rw [Option.mem_def.1 hd] at hstop
      simpa [inLine] using hstop
    rw [errorAt, if_pos rfl]
    refine ⟨'"' :: rest.takeWhile inLine, rest.dropWhile inLine, ?_, rfl, rfl, ?_, ?_⟩
    · rw [List.cons_append, List.takeWhile_append_dropWhile]
    · exact ⟨_, rfl, quote_not_mem_of_startsNoPiece h, hfeed, hend⟩
    · exact iff_of_true ⟨_, rfl⟩ rfl
  · have hkind : ¬ ∃ s, LexError.unexpected c ⟨start, start + c.utf8Size⟩ = .unterminated s := by
      rintro ⟨s, hs⟩
      cases hs
    rw [errorAt, if_neg hc]
    refine ⟨[c], rest, rfl, rfl, ?_, ⟨rfl, leadsNoPiece_or_of_startsNoPiece h hc⟩, ?_⟩
    · simp [LexError.span]
    · exact iff_of_false hkind hc

/-- **The error of a line is its first.**  What stands in front of it has tokens, and where
it starts there is no piece of any kind.  It covers whole characters and at least one: from
a quote to the end of the line, with no other quote between, if that is what stands there,
and else a single character, which no piece starts with or which is a minus sign without a
digit behind it. -/
theorem tokenize_error_located (h : tokenize line = .error e) :
    ∃ before found after, line = before ++ found ++ after ∧
      e.span = ⟨bytes before, bytes (before ++ found)⟩ ∧
      e.span.start < e.span.stop ∧ e.span.stop ≤ bytes line ∧
      (∃ tokens, tokenize before = .ok tokens) ∧ StartsNoPiece (found ++ after) ∧
      ((∃ s, e = .unterminated s) ↔ (found ++ after).head? = some '"') ∧
      e.Explains found after := by
  obtain ⟨c, rest, hleft, rfl⟩ := tokenize_eq_error_iff.1 h
  have hnothing : StartsNoPiece (c :: rest) := hleft ▸ startsNoPiece_left line
  have hcut := longestCut_ofPieces line
  have hline := Text.ofPieces_pieces line
  generalize Text.ofPieces (pieces line).1 = before at hcut hline ⊢
  obtain ⟨found, after, hfound, hhead, hspan, hexplains, hkind⟩ :=
    errorAt_explains hnothing (bytes before)
  have hne : found ≠ [] := by
    rintro rfl
    exact nomatch hhead
  rw [hleft, hfound, ← List.append_assoc] at hline
  refine ⟨before, found, after, hline.symm, ?_, ?_, ?_, ?_, hfound ▸ hnothing, ?_, hexplains⟩
  · rw [hspan, Text.bytes_append]
  · rw [hspan]
    exact Nat.lt_add_of_pos_right (bytes_pos hne)
  · rw [hspan, ← hline, Text.bytes_append, Text.bytes_append]
    exact Nat.le_add_right _ _
  · exact ⟨_, tokenize_eq_ok_iff.2 ⟨_, hcut, rfl⟩⟩
  · rw [hkind, ← hfound, List.head?_cons, Option.some.injEq]

/-- A point behind a number with a sign, which stands behind a string of two characters. -/
theorem tokenize_error_located_point :
    tokenize "\"💪#\" -1.a".toList = .error (.unexpected '.' ⟨10, 11⟩) ∧
      ∃ before after, "\"💪#\" -1.a".toList = before ++ ['.'] ++ after ∧ bytes before = 10 ∧
        (∃ tokens, tokenize before = .ok tokens) ∧ LeadsNoPiece '.' := by
  have herror : tokenize "\"💪#\" -1.a".toList = .error (.unexpected '.' ⟨10, 11⟩) := by
    decide +kernel
  obtain ⟨before, found, after, hline, hspan, -, -, htokens, -, -, rfl, hleads⟩ :=
    tokenize_error_located herror
  refine ⟨herror, before, after, hline, ?_, htokens, ?_⟩
  · exact (congrArg Span.start hspan).symm
  · exact hleads.resolve_right fun hminus => absurd hminus.1 (by decide)

end Token
end GymLang
