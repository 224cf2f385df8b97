import GymLang.Proofs.Token.Layout

/-!
# Tokens, piece by piece

The lexer takes one piece of a line after the other.  `Token.tokensFrom` gives the tokens of
what is left of a line, together with the offset at which that starts, and so the tokens of
a line can be told from its first piece and the tokens of the rest.

* `PieceKind.Stops` — what may follow a piece that is to be taken as it stands.
* `firstPiece?_append_of_stops` — such a piece is what the lexer takes.
* `tokensFrom_token`, `tokensFrom_gap` — **the tokens of a line are that of its first piece,
  if it has one, and those of the rest.**
-/

namespace GymLang

open Token
open Text (isDigit)

/-! ## Pieces that are taken as they stand -/

/-- What follows a piece of some kind does not go on with it: its first character is none
that the piece goes on with, and behind a number it is no point. -/
structure PieceKind.Stops (k : PieceKind) (rest : Text) : Prop where
  goesOn : ∀ c ∈ rest.head?, k.goesOn c = false
  point : k = .number → rest.head? ≠ some '.'

variable {k : PieceKind} {s t rest : Text} {p : Piece} {start : Nat}

theorem PieceKind.Stops.nil (k : PieceKind) : k.Stops [] :=
  ⟨by simp, by simp⟩

/-- Tokens can stop at a blank. -/
theorem PieceKind.stops_blank (hblank : k ≠ .blank) (hcomment : k ≠ .comment) (rest : Text) :
    k.Stops (' ' :: rest) := by
  refine ⟨?_, by simp⟩
  intro c hc
  simp only [List.head?_cons, Option.mem_def, Option.some.injEq] at hc
  subst hc
  cases k with
  | blank => exact absurd rfl hblank
  | comment => exact absurd rfl hcomment
  | string | number | word => rfl

/-- **A piece that nothing goes on with is taken as it stands.** -/
theorem PieceKind.Fits.firstPiece?_append_of_stops (h : k.Fits s) (hstops : k.Stops rest) :
    firstPiece? (s ++ rest) = some (⟨k, s⟩, rest) := by
  have htake : rest.takeWhile k.goesOn = [] := by
    cases rest with
    | nil => rfl
    | cons c rest => simp [hstops.goesOn c rfl]
  have hdrop : rest.dropWhile k.goesOn = rest := by
    cases rest with
    | nil => rfl
    | cons c rest => simp [hstops.goesOn c rfl]
  have hpoint : k = .number → (rest.dropWhile isDigit).head? ≠ some '.' := by
    intro hk
    subst hk
    have hdigits : rest.dropWhile isDigit = rest := hdrop
    rw [hdigits]
    exact hstops.point rfl
  rw [h.firstPiece?_append hpoint, htake, hdrop, List.append_nil]

/-- A blank, a comment or a word that is the longest piece is one that nothing goes on with. -/
theorem Token.Longest.stopped (h : Longest p (p.source ++ rest)) (hkind : p.kind ≠ .number) :
    p.kind.Stops rest :=
  ⟨h.stops, fun hnumber => absurd hnumber hkind⟩

/-! ## Tokens from an offset on -/

namespace Token

/-- The tokens of what is left of a line, which starts at byte `start` of it, or the first
error there. -/
def tokensFrom (start : Nat) (t : Text) : Except LexError (List Token) :=
  match pieces t with
  | (ps, []) => .ok (ofPieces start ps)
  | (ps, c :: rest) => .error (errorAt (start + Text.bytes (Text.ofPieces ps)) c rest)

theorem tokenize_eq_tokensFrom (line : Text) : tokenize line = tokensFrom 0 line := by
  unfold tokenize tokensFrom
  cases pieces line with
  | mk ps left =>
    cases left with
    | nil => rfl
    | cons c left => simp

theorem tokensFrom_nil (start : Nat) : tokensFrom start [] = .ok [] := by
  have hpieces : pieces [] = ([], []) := longestCut_iff.1 .nil
  simp [tokensFrom, hpieces, ofPieces]

theorem tokensFrom_of_firstPiece? (h : firstPiece? t = some (p, rest)) (start : Nat) :
    tokensFrom start t =
      (tokensFrom (start + Text.bytes p.source) rest).map ((p.token? start).toList ++ ·) := by
  have hpieces := pieces_of_firstPiece? h
  unfold tokensFrom
  cases hrest : pieces rest with
  | mk ps left =>
    simp only [hpieces, hrest]
    cases left with
    | nil => simp [ofPieces, Except.map]
    | cons c left => simp [Text.ofPieces, Except.map, Nat.add_assoc]

/-- Blanks and comments are no tokens. -/
theorem token?_eq_none_iff : p.token? start = none ↔ p.kind = .blank ∨ p.kind = .comment := by
  unfold Piece.token?
  cases p.kind <;> simp

/-- Behind a piece that is a token come the tokens of the rest. -/
theorem tokensFrom_token {u : Token} (h : k.Fits s) (hstops : k.Stops rest)
    (htoken : (⟨k, s⟩ : Piece).token? start = some u) :
    tokensFrom start (s ++ rest) = (tokensFrom (start + Text.bytes s) rest).map (u :: ·) := by
  rw [tokensFrom_of_firstPiece? (h.firstPiece?_append_of_stops hstops), htoken]
  rfl

/-- Behind a blank or a comment there are the tokens of the rest only. -/
theorem tokensFrom_gap (h : k.Fits s) (hstops : k.Stops rest) (hgap : k = .blank ∨ k = .comment)
    (start : Nat) : tokensFrom start (s ++ rest) = tokensFrom (start + Text.bytes s) rest := by
  have hnone : (⟨k, s⟩ : Piece).token? start = none := token?_eq_none_iff.2 hgap
  rw [tokensFrom_of_firstPiece? (h.firstPiece?_append_of_stops hstops), hnone]
  cases tokensFrom (start + Text.bytes s) rest <;> rfl

end Token
end GymLang
