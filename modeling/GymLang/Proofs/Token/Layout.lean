import GymLang.Proofs.Token.LongestMatch

/-!
# The tokens of a line

What the tokens of a line are and where they stand, said without the lexer.

* `LaidOut` — tokens one after the other in a text, each where its span says and with
  nothing but blanks and comments around it.
* `tokenize_longestCut` — **the lexical grammar**: which lines have tokens, and which ones.
* `cut_glued` — a line that can be cut into pieces but has no tokens, since longest match
  does not cut it that way.
-/

namespace GymLang

namespace Token

/-- The pieces that tokens of a kind are written as. -/
def pieceKind : TokenKind → PieceKind
  | .word => .word
  | .number => .number
  | .string => .string

/-- Tokens in a text that starts at byte `start` of a line.  Each stands where its span
says, as the pieces of its kind are written, and there is nothing else but blanks and
comments, which go on to the end of their line. -/
inductive LaidOut : Nat → List Token → Text → Prop
  | nil {start : Nat} : LaidOut start [] []
  | gap {start : Nat} {p : Piece} {tokens : List Token} {rest : Text} :
      p.Fits → p.kind = .blank ∨ p.kind = .comment ∧ AtLineEnd rest →
      LaidOut (start + Text.bytes p.source) tokens rest → LaidOut start tokens (p.source ++ rest)
  | token {start : Nat} {t : Token} {tokens : List Token} {rest : Text} :
      (pieceKind t.kind).Fits t.display → t.span = ⟨start, start + Text.bytes t.display⟩ →
      LaidOut (start + Text.bytes t.display) tokens rest →
      LaidOut start (t :: tokens) (t.display ++ rest)

variable {p : Piece} {ps : List Piece} {t : Token} {tokens : List Token} {start : Nat} {line : Text}

/-- Only strings are written with more than their text. -/
theorem display_eq_text (h : t.kind ≠ .string) : t.display = t.text := by
  unfold display
  split
  · rename_i hkind
    exact absurd hkind h
  · rfl

/-- The span of a piece's token is the stretch of bytes the piece takes. -/
theorem span_of_token? (h : p.token? start = some t) :
    t.span = ⟨start, start + Text.bytes p.source⟩ := by
  unfold Piece.token? at h
  cases hk : p.kind <;> simp only [hk, Option.some.injEq, reduceCtorEq] at h <;> rw [← h]

/-- The token of a piece is written as the piece. -/
theorem display_of_token? (hfits : p.Fits) (h : p.token? start = some t) :
    t.display = p.source ∧ pieceKind t.kind = p.kind := by
  obtain ⟨kind, source⟩ := p
  cases hfits with
  | blank _ _ | comment _ => exact absurd h nofun
  | number _ | negative _ | word _ _ => cases h; exact ⟨rfl, rfl⟩
  | @string body _ _ =>
    cases h
    refine ⟨?_, rfl⟩
    simp [display]

theorem laidOut_of_cut (h : Cut ps line) : LaidOut start (ofPieces start ps) line := by
  induction h generalizing start with
  | nil => exact .nil
  | @cons p ps rest hfits hcomment _ ih =>
    rw [ofPieces]
    cases htoken : p.token? start with
    | none =>
      refine .gap hfits ?_ ih
      unfold Piece.token? at htoken
      split at htoken
      · cases htoken
      · cases htoken
      · cases htoken
      · rename_i hkind
        exact .inl hkind
      · rename_i hkind
        exact .inr ⟨hkind, hcomment hkind⟩
    | some t =>
      obtain ⟨hdisplay, hkind⟩ := display_of_token? hfits htoken
      rw [← hdisplay]
      refine .token ?_ ?_ ?_
      · rw [hdisplay, hkind]
        exact hfits
      · rw [span_of_token? htoken, hdisplay]
      · rw [hdisplay]
        exact ih

/-- Tokens stand behind what is before them. -/
theorem LaidOut.start_le (h : LaidOut start tokens line) :
    ∀ t ∈ tokens, start ≤ t.span.start := by
  induction h with
  | nil => exact nofun
  | gap _ _ _ ih => exact fun t ht => Nat.le_trans (Nat.le_add_right _ _) (ih t ht)
  | token _ hspan _ ih =>
    intro t ht
    rcases List.mem_cons.1 ht with rfl | ht
    · rw [hspan]
    · exact Nat.le_trans (Nat.le_add_right _ _) (ih t ht)

/-- A token ends before the next one starts. -/
theorem LaidOut.pairwise (h : LaidOut start tokens line) :
    tokens.Pairwise fun s t => s.span.stop ≤ t.span.start := by
  induction h with
  | nil => exact .nil
  | gap _ _ _ ih => exact ih
  | token _ hspan hrest ih =>
    refine .cons (fun t ht => ?_) ih
    rw [hspan]
    exact hrest.start_le t ht

/-- A token stands between whole characters where its span says. -/
theorem LaidOut.spans (h : LaidOut start tokens line) : ∀ t ∈ tokens,
    ∃ before after, line = before ++ t.display ++ after ∧
      t.span = ⟨start + Text.bytes before, start + Text.bytes (before ++ t.display)⟩ := by
  induction h with
  | nil => exact nofun
  | @gap start p tokens rest _ _ _ ih =>
    intro t ht
    obtain ⟨before, after, rfl, hspan⟩ := ih t ht
    refine ⟨p.source ++ before, after, by simp, ?_⟩
    rw [hspan]
    simp [Nat.add_assoc]
  | @token start t' tokens rest _ hspan _ ih =>
    intro t ht
    rcases List.mem_cons.1 ht with rfl | ht
    · exact ⟨[], rest, rfl, hspan⟩
    · obtain ⟨before, after, rfl, hspan⟩ := ih t ht
      refine ⟨t'.display ++ before, after, by simp, ?_⟩
      rw [hspan]
      simp [Nat.add_assoc]

theorem bytes_pos {t : Text} (h : t ≠ []) : 0 < Text.bytes t := by
  obtain ⟨c, t, rfl⟩ := List.exists_cons_of_ne_nil h
  rw [Text.bytes_cons]
  exact Nat.lt_of_lt_of_le c.utf8Size_pos (Nat.le_add_right _ _)

/-- No token is empty. -/
theorem LaidOut.start_lt_stop (h : LaidOut start tokens line) :
    ∀ t ∈ tokens, t.span.start < t.span.stop := by
  induction h with
  | nil => exact nofun
  | gap _ _ _ ih => exact ih
  | token hfits hspan _ ih =>
    intro t ht
    rcases List.mem_cons.1 ht with rfl | ht
    · rw [hspan]
      exact Nat.lt_add_of_pos_right (bytes_pos (fits_ne_nil hfits))
    · exact ih t ht

/-- Tokens are written as the pieces of their kind. -/
theorem LaidOut.fits (h : LaidOut start tokens line) :
    ∀ t ∈ tokens, (pieceKind t.kind).Fits t.display := by
  induction h with
  | nil => exact nofun
  | gap _ _ _ ih => exact ih
  | token hfits _ _ ih => exact List.forall_mem_cons.2 ⟨hfits, ih⟩

theorem tokenize_eq_ok_iff : tokenize line = .ok tokens ↔
    ∃ ps, LongestCut ps line ∧ tokens = ofPieces 0 ps := by
  unfold tokenize
  constructor
  · intro h
    split at h
    · rename_i ps hps
      exact ⟨ps, longestCut_iff.2 hps, (Except.ok.inj h).symm⟩
    · exact absurd h nofun
  · rintro ⟨ps, hcut, rfl⟩
    rw [longestCut_iff.1 hcut]

/-- The tokens of a line are laid out in it. -/
theorem laidOut_of_tokenize (h : tokenize line = .ok tokens) : LaidOut 0 tokens line := by
  obtain ⟨ps, hcut, rfl⟩ := tokenize_eq_ok_iff.1 h
  exact laidOut_of_cut hcut.cut

/-- **The lexical grammar.**  A line has tokens if and only if it can be cut into pieces by
longest match, which is to say, if it can be cut into pieces at all with no decimal directly
behind a word or a number.  Its tokens are then those of the one cut by longest match; they
stand one behind the other between whole characters, none of them empty, with only blanks
and comments around them. -/
theorem tokenize_longestCut (line : Text) :
    ((∃ tokens, tokenize line = .ok tokens) ↔ ∃ ps, LongestCut ps line) ∧
      ((∃ ps, LongestCut ps line) ↔ ∃ ps, Cut ps line ∧ ps.IsChain Apart) ∧
      ∀ tokens, tokenize line = .ok tokens →
        (∃ ps, LongestCut ps line ∧ (∀ qs, LongestCut qs line → qs = ps) ∧
          tokens = ofPieces 0 ps) ∧
        LaidOut 0 tokens line ∧
        tokens.Pairwise (fun s t => s.span.stop ≤ t.span.start) ∧
        ∀ t ∈ tokens, t.span.start < t.span.stop ∧
          ∃ before after, line = before ++ t.display ++ after ∧
            t.span = ⟨Text.bytes before, Text.bytes (before ++ t.display)⟩ := by
  refine ⟨⟨?_, ?_⟩, ⟨?_, ?_⟩, fun tokens h => ?_⟩
  · rintro ⟨tokens, h⟩
    obtain ⟨ps, hcut, -⟩ := tokenize_eq_ok_iff.1 h
    exact ⟨ps, hcut⟩
  · rintro ⟨ps, hcut⟩
    exact ⟨ofPieces 0 ps, tokenize_eq_ok_iff.2 ⟨ps, hcut, rfl⟩⟩
  · rintro ⟨ps, hcut⟩
    exact ⟨ps, hcut.cut, hcut.apart⟩
  · rintro ⟨ps, hcut, hchain⟩
    exact longestCut_of_cut hcut hchain
  · obtain ⟨ps, hcut, rfl⟩ := tokenize_eq_ok_iff.1 h
    have hunique : ∀ qs, LongestCut qs line → qs = ps := fun qs hqs =>
      congrArg Prod.fst ((longestCut_iff.1 hqs).symm.trans (longestCut_iff.1 hcut))
    have hlaid : LaidOut 0 (ofPieces 0 ps) line := laidOut_of_tokenize h
    refine ⟨⟨ps, hcut, hunique, rfl⟩, hlaid, hlaid.pairwise, fun t ht => ?_⟩
    obtain ⟨before, after, hline, hspan⟩ := hlaid.spans t ht
    refine ⟨hlaid.start_lt_stop t ht, before, after, hline, ?_⟩
    rw [hspan, Nat.zero_add, Nat.zero_add]

/-- A word, a string that holds a `#`, a number with a sign and a comment, without blanks
where none are needed. -/
theorem tokenize_longestCut_touching :
    tokenize "a\"#\"-1.5 #b".toList =
        .ok [⟨.word, ['a'], ⟨0, 1⟩⟩, ⟨.string, ['#'], ⟨1, 4⟩⟩,
          ⟨.number, "-1.5".toList, ⟨4, 8⟩⟩] ∧
      LaidOut 0 [⟨.word, ['a'], ⟨0, 1⟩⟩, ⟨.string, ['#'], ⟨1, 4⟩⟩,
        ⟨.number, "-1.5".toList, ⟨4, 8⟩⟩] "a\"#\"-1.5 #b".toList :=
  have htokens : tokenize "a\"#\"-1.5 #b".toList =
      .ok [⟨.word, ['a'], ⟨0, 1⟩⟩, ⟨.string, ['#'], ⟨1, 4⟩⟩,
        ⟨.number, "-1.5".toList, ⟨4, 8⟩⟩] := by decide +kernel
  ⟨htokens, ((tokenize_longestCut _).2.2 _ htokens).2.1⟩

/-- A decimal directly behind a word: the line is made of pieces, but the word takes the
first digit, and nothing starts with the point. -/
theorem cut_glued :
    (∃ ps, Cut ps "a1.5".toList) ∧ ¬ ∃ tokens, tokenize "a1.5".toList = .ok tokens := by
  constructor
  · have hword : PieceKind.word.Fits ['a'] := .word rfl (by simp)
    have hdigits : Text.Digits ['1'] ∧ Text.Digits ['5'] := by simp [Text.Digits, Text.isDigit]
    have hnumber : PieceKind.number.Fits "1.5".toList := .number (.decimal hdigits.1 hdigits.2)
    have hlast : Cut [⟨.number, "1.5".toList⟩] "1.5".toList := .cons hnumber (by simp) .nil
    exact ⟨[⟨.word, ['a']⟩, ⟨.number, "1.5".toList⟩], .cons hword (by simp) hlast⟩
  · rintro ⟨tokens, h⟩
    have herror : tokenize "a1.5".toList = .error (.unexpected '.' ⟨2, 3⟩) := by decide +kernel
    exact absurd (herror.symm.trans h) (by simp)

end Token
end GymLang
