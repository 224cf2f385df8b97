import GymLang.Proofs.Text.Columns
import GymLang.Proofs.Token.Neighbours
import GymLang.Proofs.Token.PieceByPiece

/-!
# Lines put together

The lexer carries nothing over from one token to the next, so a line that is put together
from two with a blank between them has the tokens of the first and then those of the second,
only further on.  There is one exception: a comment at the end of the first line takes all
that is put behind it.

* `tokensFrom_eq_shift` — tokens further on in a line are the same tokens, moved.
* `ReadsAlone` — what is read behind a piece as it would be read on its own.
* `LongestCut.tokensFrom_append` — if the last piece of a line leaves alone what follows, all
  pieces do.
* `tokenize_put_together` — **the tokens of two lines with a blank between them**, and of a
  line with a comment behind it.
-/

namespace GymLang

open Text (bytes)

/-! ## Further on in a line -/

/-- A span that many bytes further on. -/
def Span.shift (n : Nat) (s : Span) : Span := ⟨n + s.start, n + s.stop⟩

/-- A token that many bytes further on. -/
def Token.shift (n : Nat) (t : Token) : Token := { t with span := t.span.shift n }

/-- An error that many bytes further on. -/
def LexError.shift (n : Nat) : LexError → LexError
  | .unexpected c s => .unexpected c (s.shift n)
  | .unterminated s => .unterminated (s.shift n)

namespace Token

variable {p : Piece} {ps : List Piece} {t : Token} {ts : List Token} {a c line rest : Text}
  {start : Nat}

theorem map_nil_append (x : Except LexError (List Token)) : x.map ([] ++ ·) = x := by
  cases x <;> rfl

theorem map_append_append (x : Except LexError (List Token)) (ts us : List Token) :
    (x.map (us ++ ·)).map (ts ++ ·) = x.map (ts ++ us ++ ·) := by
  cases x with
  | error e => rfl
  | ok vs => exact congrArg Except.ok (List.append_assoc ..).symm

theorem token?_shift (p : Piece) (n start : Nat) :
    p.token? (n + start) = (p.token? start).map (shift n) := by
  unfold Piece.token?
  cases p.kind with
  | word | number | string => simp [shift, Span.shift, Nat.add_assoc]
  | blank | comment => rfl

theorem ofPieces_shift (ps : List Piece) (n start : Nat) :
    ofPieces (n + start) ps = (ofPieces start ps).map (shift n) := by
  induction ps generalizing start with
  | nil => rfl
  | cons p ps ih =>
    rw [ofPieces, ofPieces, List.map_append, ← ih, token?_shift, Nat.add_assoc]
    cases p.token? start <;> rfl

theorem errorAt_shift (d : Char) (rest : Text) (n start : Nat) :
    errorAt (n + start) d rest = (errorAt start d rest).shift n := by
  unfold errorAt
  split
  · simp [LexError.shift, Span.shift, Nat.add_assoc]
  · simp [LexError.shift, Span.shift, Nat.add_assoc]

/-- **Tokens further on** in a line are the same tokens, moved, and so is an error. -/
theorem tokensFrom_eq_shift (n : Nat) (a : Text) :
    tokensFrom n a =
      ((tokenize a).mapError (LexError.shift n)).map (List.map (shift n)) := by
  unfold tokensFrom tokenize
  cases pieces a with
  | mk ps left =>
    cases left with
    | nil => exact congrArg Except.ok (ofPieces_shift ps n 0)
    | cons d rest => exact congrArg Except.error (errorAt_shift d rest n _)

/-! ## Behind a piece -/

/-- Blanks are skipped, however many there are. -/
theorem tokensFrom_dropWhile (start : Nat) (a : Text) :
    tokensFrom start a =
      tokensFrom (start + bytes (a.takeWhile isBlank)) (a.dropWhile isBlank) := by
  cases a with
  | nil => rfl
  | cons c a =>
    by_cases hc : isBlank c = true
    · rw [tokensFrom_of_firstPiece? (firstPiece?_blank hc), List.takeWhile_cons_of_pos hc,
        List.dropWhile_cons_of_pos hc]
      exact map_nil_append _
    · rw [List.takeWhile_cons_of_neg hc, List.dropWhile_cons_of_neg hc]
      rfl

/-- So it makes no difference where they are cut. -/
theorem tokensFrom_blanks (h : ∀ c ∈ a, isBlank c = true) (start : Nat) (rest : Text) :
    tokensFrom start (a ++ rest) = tokensFrom (start + bytes a) rest := by
  rw [tokensFrom_dropWhile start, List.takeWhile_append_of_pos h, List.dropWhile_append_of_pos h,
    tokensFrom_dropWhile (start + bytes a), Text.bytes_append, Nat.add_assoc]

/-- What is read behind a piece as it would be read on its own. -/
def ReadsAlone (rest : Text) (p : Piece) : Prop := ∀ start : Nat,
  tokensFrom start (p.source ++ rest) =
    (tokensFrom (start + bytes p.source) rest).map ((p.token? start).toList ++ ·)

theorem readsAlone_of_stops (hfits : p.Fits) (hstops : p.kind.Stops rest) : ReadsAlone rest p :=
  tokensFrom_of_firstPiece? (hfits.firstPiece?_append_of_stops hstops)

theorem readsAlone_of_gap (hgap : p.kind = .blank ∨ p.kind = .comment)
    (h : ∀ start, tokensFrom start (p.source ++ rest) = tokensFrom (start + bytes p.source) rest) :
    ReadsAlone rest p := by
  intro start
  rw [h, token?_eq_none_iff.2 hgap]
  exact (map_nil_append _).symm

theorem readsAlone_of_blank (hfits : p.Fits) (hblank : p.kind = .blank) (rest : Text) :
    ReadsAlone rest p := by
  have hrun : PieceKind.blank.Fits p.source := hblank ▸ hfits
  refine readsAlone_of_gap (.inl hblank) fun start => ?_
  cases hrun with
  | blank _ hrun => exact tokensFrom_blanks hrun start rest

/-- Tokens do not go on with what is neither a letter nor a digit. -/
theorem stops_of_separator {k : PieceKind} {d : Char} (hblank : k ≠ .blank)
    (hcomment : k ≠ .comment) (hd : isWordPart d = false) (hpoint : d ≠ '.') (rest : Text) :
    k.Stops (d :: rest) where
  goesOn := by
    rintro _ ⟨⟩
    cases k with
    | blank => exact absurd rfl hblank
    | comment => exact absurd rfl hcomment
    | string => rfl
    | number =>
      exact Bool.eq_false_iff.2 fun hdigit => ne_of_class (isWordPart_of_isDigit hdigit) hd rfl
    | word => exact hd
  point _ := by simpa using hpoint

/-- What follows such a character is read on its own, unless it is in a comment. -/
theorem readsAlone_of_separator {d : Char} (hfits : p.Fits) (hcomment : p.kind ≠ .comment)
    (hd : isWordPart d = false) (hpoint : d ≠ '.') (rest : Text) : ReadsAlone (d :: rest) p := by
  by_cases hblank : p.kind = .blank
  · exact readsAlone_of_blank hfits hblank _
  · exact readsAlone_of_stops hfits (stops_of_separator hblank hcomment hd hpoint rest)

theorem comment_of_fits (hfits : p.Fits) (hcomment : p.kind = .comment) :
    ∃ body, p.source = '#' :: body ∧ '\n' ∉ body := by
  obtain ⟨kind, source⟩ := p
  subst hcomment
  cases hfits with
  | comment hbody => exact ⟨_, rfl, hbody⟩

/-- There are no tokens in a comment that goes on to the end. -/
theorem tokensFrom_comment (h : '\n' ∉ c) (start : Nat) : tokensFrom start ('#' :: c) = .ok [] := by
  have hgap := tokensFrom_gap (.comment h) (.nil _) (.inr rfl) start
  rwa [List.append_nil, tokensFrom_nil] at hgap

/-- A comment at the end takes another one in. -/
theorem readsAlone_comment (hfits : p.Fits) (h : '\n' ∉ c) : ReadsAlone ('#' :: c) p := by
  by_cases hcomment : p.kind = .comment
  · refine readsAlone_of_gap (.inr hcomment) fun start => ?_
    obtain ⟨body, hsource, hbody⟩ := comment_of_fits hfits hcomment
    have hall : '\n' ∉ body ++ '#' :: c := by simp [hbody, h]
    rw [hsource, List.cons_append, tokensFrom_comment hall, tokensFrom_comment h]
  · exact readsAlone_of_separator hfits hcomment (by decide) (by decide) c

theorem LongestCut.fits_of_mem (h : LongestCut ps a) : ∀ p ∈ ps, p.Fits := by
  induction h with
  | nil => exact nofun
  | cons hlongest _ ih => exact List.forall_mem_cons.2 ⟨hlongest.fits, ih⟩

/-- **If the last piece of a line leaves alone what follows, all pieces do.** -/
theorem LongestCut.tokensFrom_append (h : LongestCut ps a)
    (hlast : ∀ p ∈ ps.getLast?, ReadsAlone rest p) (start : Nat) :
    tokensFrom start (a ++ rest) =
      (tokensFrom (start + bytes a) rest).map (ofPieces start ps ++ ·) := by
  induction h generalizing start with
  | nil => exact (map_nil_append _).symm
  | @cons p ps more hlongest hmore ih =>
    have halone : ReadsAlone (more ++ rest) p := by
      cases hmore with
      | nil => exact hlast p rfl
      | @cons q qs more hq hmore =>
        -- what follows the piece starts as it did
        have hhead : (q.source ++ more ++ rest).head? = (q.source ++ more).head? :=
          List.head?_append_of_ne_nil _ (by simp [fits_ne_nil hq.fits])
        refine readsAlone_of_stops hlongest.fits ⟨?_, ?_⟩
        · rw [hhead]
          exact hlongest.stops
        · rw [hhead]
          exact fun _ => (LongestCut.cons hq hmore).cut.head?_ne_point
    have hrest : ∀ q ∈ ps.getLast?, ReadsAlone rest q := by
      intro q hq
      refine hlast q ?_
      cases ps with
      | nil => exact nomatch hq
      | cons q' qs => rwa [List.getLast?_cons_cons]
    rw [List.append_assoc, halone, ih hrest, map_append_append, ofPieces, Text.bytes_append,
      Nat.add_assoc]

/-! ## Lines put together -/

/-- Every `#` of a line is in one of its strings. -/
def HashesQuoted (line : Text) (ts : List Token) : Prop :=
  ∀ before after, line = before ++ '#' :: after →
    ∃ t ∈ ts, t.kind = .string ∧ t.span.start ≤ bytes before ∧ bytes before < t.span.stop

instance : Decidable (HashesQuoted line ts) :=
  decidable_of_iff _ (Text.forall_before_iff fun before =>
    ∃ t ∈ ts, t.kind = .string ∧ t.span.start ≤ bytes before ∧ bytes before < t.span.stop).symm

theorem ofPieces_concat (ps : List Piece) (p : Piece) (start : Nat) :
    ofPieces start (ps ++ [p]) =
      ofPieces start ps ++ (p.token? (start + bytes (Text.ofPieces ps))).toList := by
  induction ps generalizing start with
  | nil => simp [ofPieces, Text.ofPieces]
  | cons q ps ih => simp [ofPieces, ih, Text.ofPieces, Nat.add_assoc]

/-- The tokens of pieces stop where the pieces stop. -/
theorem stop_le_of_mem_ofPieces (h : t ∈ ofPieces start ps) :
    t.span.stop ≤ start + bytes (Text.ofPieces ps) := by
  obtain ⟨left, p, right, rfl, htoken⟩ := mem_ofPieces_iff.1 h
  have hpieces : Text.ofPieces (left ++ p :: right) =
      Text.ofPieces left ++ p.source ++ Text.ofPieces right := by simp [Text.ofPieces]
  rw [span_of_token? htoken, hpieces, Text.bytes_append, Text.bytes_append]
  show start + bytes (Text.ofPieces left) + bytes p.source ≤ _
  omega

/-- A line in which every `#` is in a string does not end in a comment. -/
theorem HashesQuoted.last_ne_comment (h : HashesQuoted a (ofPieces 0 ps)) (hcut : LongestCut ps a) :
    ∀ p ∈ ps.getLast?, p.Fits ∧ p.kind ≠ .comment := by
  intro p hp
  obtain ⟨left, rfl⟩ := List.getLast?_eq_some_iff.1 hp
  obtain ⟨rest, rfl, hrest⟩ := hcut.split
  cases hrest with
  | @cons _ _ rest hlongest _ =>
    refine ⟨hlongest.fits, fun hcomment => ?_⟩
    obtain ⟨body, hsource, -⟩ := comment_of_fits hlongest.fits hcomment
    rw [hsource] at h
    obtain ⟨t, ht, -, -, hstop⟩ := h (Text.ofPieces left) (body ++ rest) rfl
    rw [ofPieces_concat, token?_eq_none_iff.2 (.inr hcomment), Option.toList_none,
      List.append_nil] at ht
    have hle := stop_le_of_mem_ofPieces ht
    omega

/-- **The tokens of two lines with a blank between them** are those of the first and then
those of the second, further on by the first and the blank; an error of the second is as far
further on.  It takes that no `#` of the first is outside its strings.  A comment behind a
line makes no difference to its tokens. -/
theorem tokenize_put_together :
    (∀ a b ts, tokenize a = .ok ts → HashesQuoted a ts →
      (∀ us, tokenize b = .ok us →
        tokenize (a ++ ' ' :: b) = .ok (ts ++ us.map (shift (bytes a + 1)))) ∧
      ∀ e, tokenize b = .error e →
        tokenize (a ++ ' ' :: b) = .error (e.shift (bytes a + 1))) ∧
    ∀ a c ts, tokenize a = .ok ts → '\n' ∉ c → tokenize (a ++ '#' :: c) = .ok ts := by
  constructor
  · intro a b ts ha hquoted
    obtain ⟨ps, hcut, rfl⟩ := tokenize_eq_ok_iff.1 ha
    have hlast : ∀ p ∈ ps.getLast?, ReadsAlone (' ' :: b) p := by
      intro p hp
      obtain ⟨hfits, hcomment⟩ := hquoted.last_ne_comment hcut p hp
      exact readsAlone_of_separator hfits hcomment (by decide) (by decide) b
    have hblank : tokensFrom (0 + bytes a) (' ' :: b) = tokensFrom (bytes a + 1) b := by
      have hone : ∀ d ∈ [' '], isBlank d = true := List.forall_mem_singleton.2 rfl
      rw [← List.singleton_append, tokensFrom_blanks hone, Nat.zero_add]
      rfl
    have htokens : tokenize (a ++ ' ' :: b) =
        (((tokenize b).mapError (LexError.shift (bytes a + 1))).map
          (List.map (shift (bytes a + 1)))).map (ofPieces 0 ps ++ ·) := by
      rw [tokenize_eq_tokensFrom, hcut.tokensFrom_append hlast, hblank, tokensFrom_eq_shift]
    constructor
    · intro us hb
      rw [htokens, hb]
      rfl
    · intro e hb
      rw [htokens, hb]
      rfl
  · intro a c ts ha hc
    obtain ⟨ps, hcut, rfl⟩ := tokenize_eq_ok_iff.1 ha
    have hlast : ∀ p ∈ ps.getLast?, ReadsAlone ('#' :: c) p := by
      intro p hp
      exact readsAlone_comment (hcut.fits_of_mem p (List.mem_of_getLast? hp)) hc
    rw [tokenize_eq_tokensFrom, hcut.tokensFrom_append hlast, tokensFrom_comment hc]
    exact congrArg Except.ok (List.append_nil _)

/-- A line with a `#` in a string, and behind it one that has tokens, one that has none, or a
comment. -/
theorem tokenize_put_together_quoted :
    tokenize "FLEX \"#💪\"".toList =
        .ok [⟨.word, "FLEX".toList, ⟨0, 4⟩⟩, ⟨.string, ['#', '💪'], ⟨5, 12⟩⟩] ∧
      tokenize "FLEX \"#💪\"  x# -1".toList =
        .ok [⟨.word, "FLEX".toList, ⟨0, 4⟩⟩, ⟨.string, ['#', '💪'], ⟨5, 12⟩⟩,
          ⟨.word, ['x'], ⟨14, 15⟩⟩] ∧
      tokenize "FLEX \"#💪\" \"-1".toList = .error (.unterminated ⟨13, 16⟩) ∧
      tokenize "FLEX \"#💪\"#\"-1".toList =
        .ok [⟨.word, "FLEX".toList, ⟨0, 4⟩⟩, ⟨.string, ['#', '💪'], ⟨5, 12⟩⟩] := by
  have htokens : tokenize "FLEX \"#💪\"".toList =
      .ok [⟨.word, "FLEX".toList, ⟨0, 4⟩⟩, ⟨.string, ['#', '💪'], ⟨5, 12⟩⟩] := by
    decide +kernel
  have hmore : tokenize " x# -1".toList = .ok [⟨.word, ['x'], ⟨1, 2⟩⟩] := by decide +kernel
  have herror : tokenize "\"-1".toList = .error (.unterminated ⟨0, 3⟩) := by decide +kernel
  obtain ⟨hok, hfails⟩ := tokenize_put_together.1 _ " x# -1".toList _ htokens (by decide +kernel)
  refine ⟨htokens, hok _ hmore, ?_, ?_⟩
  · exact (tokenize_put_together.1 _ "\"-1".toList _ htokens (by decide +kernel)).2 _ herror
  · exact tokenize_put_together.2 _ "\"-1".toList _ htokens (by decide)

end Token
end GymLang
