import GymLang.Proofs.Token.PieceByPiece

/-!
# Writing tokens and reading them again

Tokens are written one after the other with one blank between any two of them, which is
enough to keep them apart: no token goes on with a blank, and none starts with one.  So
whatever they are, they are read as they were written (`tokenize_spaced`).

* `WellFormed` — what the text of a token can be, by its kind.
* `spaced` — tokens written out.
* `placed` — the tokens that are read, each where it has been written.
-/

namespace GymLang
namespace Token

/-- A token whose text is one that its kind allows: that of a word or of a number, or what
can stand between two quotes. -/
def WellFormed (t : Token) : Prop :=
  match t.kind with
  | .word => PieceKind.word.Fits t.text
  | .number => PieceKind.number.Fits t.text
  | .string => '"' ∉ t.text ∧ '\n' ∉ t.text

/-- Tokens as they are written, with one blank between any two of them. -/
def spaced (ts : List Token) : Text := [' '].intercalate (ts.map display)

/-- What is written in front of the token that comes after some others. -/
def written (before : List Token) : Text := before.flatMap fun t => t.display ++ [' ']

/-- Tokens where they stand when they are written from byte `start` on. -/
def placed (start : Nat) : List Token → List Token
  | [] => []
  | t :: ts =>
    ⟨t.kind, t.text, ⟨start, start + Text.bytes t.display⟩⟩ ::
      placed (start + Text.bytes t.display + 1) ts

variable {t u : Token} {ts tokens : List Token} {line : Text} {start : Nat}

/-! ## Well-formed tokens -/

/-- A string is written with a quote on either side. -/
theorem fits_string_iff {body : Text} :
    PieceKind.string.Fits ('"' :: body ++ ['"']) ↔ '"' ∉ body ∧ '\n' ∉ body := by
  constructor
  · intro h
    generalize hs : '"' :: body ++ ['"'] = s at h
    cases h with
    | string hquote hfeed =>
      simp only [List.cons_append, List.cons.injEq, List.append_cancel_right_eq, true_and] at hs
      subst hs
      exact ⟨hquote, hfeed⟩
  · intro h
    exact .string h.1 h.2

/-- Well-formed tokens are those that are written as the pieces of their kind. -/
theorem wellFormed_iff : t.WellFormed ↔ (pieceKind t.kind).Fits t.display := by
  unfold WellFormed display pieceKind
  cases t.kind with
  | word => exact Iff.rfl
  | number => exact Iff.rfl
  | string => exact fits_string_iff.symm

/-- The tokens of a line are well-formed. -/
theorem wellFormed_of_tokenize (h : tokenize line = .ok tokens) : ∀ t ∈ tokens, t.WellFormed :=
  fun t ht => wellFormed_iff.2 ((laidOut_of_tokenize h).fits t ht)

theorem pieceKind_ne_blank (k : TokenKind) : pieceKind k ≠ .blank := by
  cases k <;> simp [pieceKind]

theorem pieceKind_ne_comment (k : TokenKind) : pieceKind k ≠ .comment := by
  cases k <;> simp [pieceKind]

/-- No token starts with a blank. -/
theorem head?_display (h : t.WellFormed) : ∀ c ∈ t.display.head?, isBlank c = false :=
  isBlank_head?_of_fits (wellFormed_iff.1 h) (pieceKind_ne_blank t.kind)

/-- The token of what is written is the token that was written. -/
theorem token?_display (t : Token) (start : Nat) :
    (⟨pieceKind t.kind, t.display⟩ : Piece).token? start =
      some ⟨t.kind, t.text, ⟨start, start + Text.bytes t.display⟩⟩ := by
  cases hkind : t.kind <;> simp [Piece.token?, pieceKind, display, hkind]

/-! ## What is written -/

theorem spaced_cons_cons (t u : Token) (ts : List Token) :
    spaced (t :: u :: ts) = t.display ++ ' ' :: spaced (u :: ts) := by
  simp [spaced, List.intercalate_cons_cons]

theorem spaced_singleton (t : Token) : spaced [t] = t.display := by
  simp [spaced]

/-- What is written starts as its first token does. -/
theorem head?_spaced (h : u.WellFormed) (ts : List Token) :
    ∀ c ∈ (spaced (u :: ts)).head?, isBlank c = false := by
  have hne : u.display ≠ [] := fits_ne_nil (wellFormed_iff.1 h)
  obtain ⟨d, s, hs⟩ := List.exists_cons_of_ne_nil hne
  have hhead := head?_display h
  cases ts with
  | nil => simpa [spaced_singleton] using hhead
  | cons v ts => simpa [spaced_cons_cons, hs] using hhead

/-- A token stands behind what is written in front of it. -/
theorem spaced_append (before : List Token) (t : Token) (after : List Token) :
    ∃ rest, spaced (before ++ t :: after) = written before ++ t.display ++ rest := by
  induction before with
  | nil =>
    cases after with
    | nil => exact ⟨[], by simp [spaced_singleton, written]⟩
    | cons u after => exact ⟨' ' :: spaced (u :: after), by simp [spaced_cons_cons, written]⟩
  | cons b before ih =>
    obtain ⟨rest, hrest⟩ := ih
    refine ⟨rest, ?_⟩
    have hcons : spaced (b :: (before ++ t :: after)) =
        b.display ++ ' ' :: spaced (before ++ t :: after) := by
      cases before with
      | nil => exact spaced_cons_cons b t after
      | cons b' before => exact spaced_cons_cons b b' (before ++ t :: after)
    rw [List.cons_append, hcons, hrest]
    simp [written]

/-! ## What is read -/

theorem map_kind_placed (start : Nat) (ts : List Token) :
    (placed start ts).map Token.kind = ts.map Token.kind := by
  induction ts generalizing start with
  | nil => rfl
  | cons t ts ih => simp [placed, ih]

theorem map_text_placed (start : Nat) (ts : List Token) :
    (placed start ts).map Token.text = ts.map Token.text := by
  induction ts generalizing start with
  | nil => rfl
  | cons t ts ih => simp [placed, ih]

/-- A token is placed where it is written. -/
theorem getElem?_placed (start : Nat) (before : List Token) (t : Token) (after : List Token) :
    (placed start (before ++ t :: after))[before.length]? =
      some ⟨t.kind, t.text, ⟨start + Text.bytes (written before),
        start + Text.bytes (written before ++ t.display)⟩⟩ := by
  induction before generalizing start with
  | nil => simp [placed, written]
  | cons b before ih =>
    have hblank : ' '.utf8Size = 1 := rfl
    simp [placed, ih, written, hblank, Nat.add_assoc]

/-- Tokens that are written from an offset on are read there. -/
theorem tokensFrom_spaced (h : ∀ t ∈ ts, t.WellFormed) (start : Nat) :
    tokensFrom start (spaced ts) = .ok (placed start ts) := by
  induction ts generalizing start with
  | nil => exact tokensFrom_nil start
  | cons t ts ih =>
    obtain ⟨ht, hrest⟩ := List.forall_mem_cons.1 h
    have hfits := wellFormed_iff.1 ht
    cases ts with
    | nil =>
      have htoken := tokensFrom_token hfits (.nil _) (token?_display t start)
      rw [List.append_nil, tokensFrom_nil] at htoken
      rw [spaced_singleton, htoken]
      rfl
    | cons u ts =>
      have hstops : (pieceKind t.kind).Stops (' ' :: spaced (u :: ts)) :=
        PieceKind.stops_blank (pieceKind_ne_blank t.kind) (pieceKind_ne_comment t.kind) _
      have hblank : PieceKind.blank.Fits [' '] := .blank (by simp) (by simp [isBlank])
      have hnext : PieceKind.blank.Stops (spaced (u :: ts)) :=
        ⟨head?_spaced (hrest u List.mem_cons_self) ts, by simp⟩
      have hgap : tokensFrom (start + Text.bytes t.display) (' ' :: spaced (u :: ts)) =
          .ok (placed (start + Text.bytes t.display + 1) (u :: ts)) :=
        (tokensFrom_gap hblank hnext (.inl rfl) _).trans (ih hrest _)
      rw [spaced_cons_cons, tokensFrom_token hfits hstops (token?_display t start), hgap]
      rfl

/-- **What is written is read again.**  Well-formed tokens that are written with one blank
between any two of them are read as tokens of the same kinds and texts in the same order,
and their spans are the places where they have been written.  The tokens of a line are
well-formed. -/
theorem tokenize_spaced :
    (∀ ts : List Token, (∀ t ∈ ts, t.WellFormed) →
      ∃ us, tokenize (spaced ts) = .ok us ∧
        us.map Token.kind = ts.map Token.kind ∧ us.map Token.text = ts.map Token.text ∧
        ∀ before t after, ts = before ++ t :: after →
          (∃ rest, spaced ts = written before ++ t.display ++ rest) ∧
            us[before.length]?.map Token.span =
              some ⟨Text.bytes (written before), Text.bytes (written before ++ t.display)⟩) ∧
    ∀ line tokens, tokenize line = .ok tokens → ∀ t ∈ tokens, t.WellFormed := by
  refine ⟨?_, fun line tokens h => wellFormed_of_tokenize h⟩
  intro ts h
  refine ⟨placed 0 ts, ?_, map_kind_placed 0 ts, map_text_placed 0 ts, ?_⟩
  · rw [tokenize_eq_tokensFrom, tokensFrom_spaced h]
  · rintro before t after rfl
    refine ⟨spaced_append before t after, ?_⟩
    simp [getElem?_placed]

/-- The tokens of a line without blanks where none are needed, written with them. -/
theorem tokenize_spaced_touching :
    tokenize "a\"#💪\"-1.5 #b".toList =
        .ok [⟨.word, ['a'], ⟨0, 1⟩⟩, ⟨.string, ['#', '💪'], ⟨1, 8⟩⟩,
          ⟨.number, "-1.5".toList, ⟨8, 12⟩⟩] ∧
      ∃ us, tokenize "a \"#💪\" -1.5".toList = .ok us ∧
        us.map Token.kind = [.word, .string, .number] ∧
        us.map Token.text = [['a'], ['#', '💪'], "-1.5".toList] ∧
        us[2]?.map Token.span = some ⟨10, 14⟩ := by
  have htokens : tokenize "a\"#💪\"-1.5 #b".toList =
      .ok [⟨.word, ['a'], ⟨0, 1⟩⟩, ⟨.string, ['#', '💪'], ⟨1, 8⟩⟩,
        ⟨.number, "-1.5".toList, ⟨8, 12⟩⟩] := by decide +kernel
  obtain ⟨us, hus, hkinds, htexts, hplaces⟩ :=
    tokenize_spaced.1 _ (tokenize_spaced.2 _ _ htokens)
  refine ⟨htokens, us, hus, hkinds, htexts, ?_⟩
  exact (hplaces [⟨.word, ['a'], ⟨0, 1⟩⟩, ⟨.string, ['#', '💪'], ⟨1, 8⟩⟩] _ [] rfl).2

end Token
end GymLang
