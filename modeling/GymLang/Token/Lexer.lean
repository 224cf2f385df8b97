import GymLang.Text.Digit
import GymLang.Token.Basic

/-!
# From a line to its tokens

A line is cut into pieces from left to right, each as long as its kind allows: blanks,
comments, strings, numbers and words.  `pieces` returns them with the rest of the line at
which no piece starts, so a line is well formed when nothing is left over
(`Text.ofPieces_pieces`: nothing is lost or added on the way).  Its tokens are the pieces
that carry meaning, and the first character left over is where a bad line goes wrong.
-/

namespace GymLang

/-- What a stretch of a line is. -/
inductive PieceKind
  | blank
  | comment
  | string
  | number
  | word
deriving DecidableEq, Repr

/-- A stretch of a line, as it is written. -/
structure Piece where
  kind : PieceKind
  source : Text
deriving DecidableEq, Repr

namespace Token

/-- Characters that separate tokens. -/
def isBlank (c : Char) : Bool := c == ' ' || c == '\t' || c == '\r' || c == '\n'

/-- Characters a word may start with. -/
def isWordStart (c : Char) : Bool := 'a' ≤ c && c ≤ 'z' || 'A' ≤ c && c ≤ 'Z' || c == '_'

/-- Characters a word may go on with. -/
def isWordPart (c : Char) : Bool := isWordStart c || Text.isDigit c

/-- Characters a comment may go on with. -/
def inLine (c : Char) : Bool := c != '\n'

/-- Characters a string may hold. -/
def inString (c : Char) : Bool := c != '"' && c != '\n'

/-- The longest run of a class of characters at the start, and what follows it. -/
def run (p : Char → Bool) (t : Text) : Text × Text := (t.takeWhile p, t.dropWhile p)

/-- Whether a text starts with a digit. -/
def startsWithDigit : Text → Bool
  | [] => false
  | c :: _ => Text.isDigit c

/-- The digits at the start and, where a point and a digit follow, the fraction; and what
comes after. -/
def spanNumber (t : Text) : Text × Text :=
  match t.dropWhile Text.isDigit with
  | '.' :: d :: rest =>
    if Text.isDigit d then
      (t.takeWhile Text.isDigit ++ '.' :: d :: rest.takeWhile Text.isDigit,
        rest.dropWhile Text.isDigit)
    else run Text.isDigit t
  | _ => run Text.isDigit t

/-- The piece a text starts with, and what follows it. -/
def firstPiece? : Text → Option (Piece × Text)
  | [] => none
  | c :: rest =>
    if isBlank c then
      let (more, after) := run isBlank rest
      some (⟨.blank, c :: more⟩, after)
    else if c = '#' then
      let (more, after) := run inLine rest
      some (⟨.comment, c :: more⟩, after)
    else if isWordStart c then
      let (more, after) := run isWordPart rest
      some (⟨.word, c :: more⟩, after)
    else if Text.isDigit c then
      let (number, after) := spanNumber (c :: rest)
      some (⟨.number, number⟩, after)
    else if c = '-' then
      if startsWithDigit rest then
        let (number, after) := spanNumber rest
        some (⟨.number, c :: number⟩, after)
      else none
    else if c = '"' then
      match run inString rest with
      | (body, '"' :: after) => some (⟨.string, c :: body ++ ['"']⟩, after)
      | _ => none
    else none

theorem run_append (p : Char → Bool) (t : Text) : (run p t).1 ++ (run p t).2 = t :=
  List.takeWhile_append_dropWhile

theorem spanNumber_append (t : Text) : (spanNumber t).1 ++ (spanNumber t).2 = t := by
  have h : t.takeWhile Text.isDigit ++ t.dropWhile Text.isDigit = t :=
    List.takeWhile_append_dropWhile
  unfold spanNumber
  split
  · next d rest hd =>
    split
    · rw [hd] at h
      simpa using h
    · exact h
  · exact h

theorem spanNumber_ne_nil {c : Char} (hc : Text.isDigit c = true) (t : Text) :
    (spanNumber (c :: t)).1 ≠ [] := by
  unfold spanNumber
  split
  · split <;> simp [run, hc]
  · simp [run, hc]

/-- A piece and what follows it make up the text. -/
theorem append_of_firstPiece? {t rest : Text} {p : Piece} (h : firstPiece? t = some (p, rest)) :
    p.source ++ rest = t := by
  cases t with
  | nil => simp [firstPiece?] at h
  | cons c t =>
    have hstring := run_append inString t
    simp only [firstPiece?] at h
    repeat' split at h
    all_goals simp only [Option.some.injEq, Prod.mk.injEq, reduceCtorEq] at h
    all_goals obtain ⟨rfl, rfl⟩ := h
    all_goals simp_all [run_append, spanNumber_append]

/-- No piece is empty. -/
theorem source_ne_nil_of_firstPiece? {t rest : Text} {p : Piece}
    (h : firstPiece? t = some (p, rest)) : p.source ≠ [] := by
  cases t with
  | nil => simp [firstPiece?] at h
  | cons c t =>
    simp only [firstPiece?] at h
    repeat' split at h
    all_goals simp only [Option.some.injEq, Prod.mk.injEq, reduceCtorEq] at h
    all_goals obtain ⟨rfl, rfl⟩ := h
    all_goals simp_all [spanNumber_ne_nil]

theorem length_lt_of_firstPiece? {t rest : Text} {p : Piece}
    (h : firstPiece? t = some (p, rest)) : rest.length < t.length := by
  have hne := List.length_pos_iff.mpr (source_ne_nil_of_firstPiece? h)
  rw [← append_of_firstPiece? h, List.length_append]
  omega

/-- The pieces of a text from its start, and the rest at which no piece starts. -/
def pieces (t : Text) : List Piece × Text :=
  match _h : firstPiece? t with
  | none => ([], t)
  | some (p, rest) => (p :: (pieces rest).1, (pieces rest).2)
termination_by t.length
decreasing_by all_goals exact length_lt_of_firstPiece? ‹_›

end Token

/-- The token a piece stands for, with its span when it starts at `offset`. -/
def Piece.token? (p : Piece) (offset : Nat) : Option Token :=
  let span : Span := ⟨offset, offset + Text.bytes p.source⟩
  match p.kind with
  | .word => some ⟨.word, p.source, span⟩
  | .number => some ⟨.number, p.source, span⟩
  | .string => some ⟨.string, p.source.tail.dropLast, span⟩
  | .blank => none
  | .comment => none

/-- The text that pieces make up. -/
def Text.ofPieces (ps : List Piece) : Text := ps.flatMap Piece.source

namespace Token

/-- The tokens among pieces of which the first starts at `offset`. -/
def ofPieces (offset : Nat) : List Piece → List Token
  | [] => []
  | p :: ps => (p.token? offset).toList ++ ofPieces (offset + Text.bytes p.source) ps

/-- The error at a character with which no piece starts. -/
def errorAt (offset : Nat) (c : Char) (rest : Text) : LexError :=
  if c = '"' then .unterminated ⟨offset, offset + Text.bytes (c :: rest.takeWhile inLine)⟩
  else .unexpected c ⟨offset, offset + c.utf8Size⟩

/-- The tokens of a line, or the first error in it. -/
def tokenize (line : Text) : Except LexError (List Token) :=
  match pieces line with
  | (ps, []) => .ok (ofPieces 0 ps)
  | (ps, c :: rest) => .error (errorAt (Text.bytes (Text.ofPieces ps)) c rest)

end Token

/-- The pieces and the rest make up the text. -/
theorem Text.ofPieces_pieces (t : Text) :
    Text.ofPieces (Token.pieces t).1 ++ (Token.pieces t).2 = t := by
  fun_induction Token.pieces t with
  | case1 => simp [Text.ofPieces]
  | case2 _ p rest h ih =>
    rw [← Token.append_of_firstPiece? h]
    simpa [Text.ofPieces] using ih

end GymLang
