import Mathlib.Data.List.Chain
import GymLang.Proofs.Token.Grammar

/-!
# Cutting a line by longest match

A line can be cut into pieces in several ways, as `12` is one number or two.  Of these the
lexer takes one: each piece is the longest that starts where it starts.

* `Cut`, `LongestCut` — any way to cut a text into pieces, and the one by longest match.
* `longestCut_ofPieces` — the second is what `pieces` takes of a text.
* `longestCut_iff` — and it takes all of a text that can be cut so.
* `longestCut_of_cut` — **when longest match does no harm**: a text that can be cut at all
  can be cut by longest match, unless a decimal stands directly behind a word or a number,
  which take its first digits away from it (`Apart`).
-/

namespace GymLang

open Text (Digits Unsigned isDigit)

/-! ## Ways to cut a text -/

namespace Token

/-- A text that does not go on in the line it starts in. -/
def AtLineEnd (t : Text) : Prop := ∀ c ∈ t.head?, c = '\n'

/-- Pieces that make up a text.  A comment goes on to the end of its line. -/
inductive Cut : List Piece → Text → Prop
  | nil : Cut [] []
  | cons {p : Piece} {ps : List Piece} {rest : Text} :
      p.Fits → (p.kind = .comment → AtLineEnd rest) → Cut ps rest → Cut (p :: ps) (p.source ++ rest)

/-- The piece `p` stands at the start of a text, and no longer one of any kind does. -/
structure Longest (p : Piece) (t : Text) : Prop where
  fits : p.Fits
  starts : p.source <+: t
  longest : ∀ (k : PieceKind) (s : Text), k.Fits s → s <+: t → s.length ≤ p.source.length

/-- Pieces that make up a text, each the longest where it stands. -/
inductive LongestCut : List Piece → Text → Prop
  | nil : LongestCut [] []
  | cons {p : Piece} {ps : List Piece} {rest : Text} :
      Longest p (p.source ++ rest) → LongestCut ps rest → LongestCut (p :: ps) (p.source ++ rest)

/-- A number with a fraction and without a sign. -/
def Decimal (t : Text) : Prop := ∃ ds es : Text, ds.Digits ∧ es.Digits ∧ t = ds ++ '.' :: es

/-- The second of two neighbours is no decimal of which the first could take the digits. -/
def Apart (p q : Piece) : Prop := p.kind = .word ∨ p.kind = .number → ¬ Decimal q.source

variable {p q : Piece} {ps : List Piece} {t rest : Text}

/-! ## Longest match is what the lexer does -/

theorem pieces_of_firstPiece? (h : firstPiece? t = some (p, rest)) :
    pieces t = (p :: (pieces rest).1, (pieces rest).2) := by
  rw [pieces]
  split
  · rename_i hnone
    exact absurd (h.symm.trans hnone) (Option.some_ne_none _)
  · rename_i q rest' hsome
    obtain ⟨rfl, rfl⟩ := Prod.mk.inj (Option.some.inj (h.symm.trans hsome))
    rfl

theorem longest_of_firstPiece? (h : firstPiece? t = some (p, rest)) : Longest p t where
  fits := fits_of_firstPiece? h
  starts := ⟨rest, append_of_firstPiece? h⟩
  longest _ _ hfits hstarts := (prefix_of_firstPiece? h hfits hstarts).2.length_le

/-- The longest piece at the start of a text is the one that is found. -/
theorem Longest.firstPiece? (h : Longest p (p.source ++ rest)) :
    Token.firstPiece? (p.source ++ rest) = some (p, rest) := by
  obtain ⟨more, rest', hfound⟩ := h.fits.extends_firstPiece? rest
  have hmore : (p.source ++ more).length ≤ p.source.length :=
    h.longest p.kind (p.source ++ more) (fits_of_firstPiece? hfound)
      ⟨rest', append_of_firstPiece? hfound⟩
  obtain rfl : more = [] := by
    rw [List.length_append] at hmore
    exact List.eq_nil_of_length_eq_zero (by omega)
  rw [List.append_nil] at hfound
  have hrest := append_of_firstPiece? hfound
  rw [hfound, List.append_cancel_left hrest]

/-- A piece that is the longest of a text is so of any part of it. -/
theorem Longest.shorten {s : Text} (h : Longest p (p.source ++ (s ++ rest))) :
    Longest p (p.source ++ s) where
  fits := h.fits
  starts := ⟨s, rfl⟩
  longest k u hfits hstarts := h.longest k u hfits (hstarts.trans ⟨rest, by simp⟩)

/-- What the lexer takes of a text is cut by longest match. -/
theorem longestCut_ofPieces (t : Text) : LongestCut (pieces t).1 (Text.ofPieces (pieces t).1) := by
  fun_induction pieces t with
  | case1 => exact .nil
  | case2 t p rest hsome ih =>
    have hlongest := longest_of_firstPiece? hsome
    rw [← append_of_firstPiece? hsome, ← Text.ofPieces_pieces rest] at hlongest
    exact .cons hlongest.shorten ih

theorem longestCut_pieces (h : (pieces t).2 = []) : LongestCut (pieces t).1 t := by
  have hcut := longestCut_ofPieces t
  have htext := Text.ofPieces_pieces t
  rw [h, List.append_nil] at htext
  rwa [htext] at hcut

/-- **The lexer cuts by longest match.** -/
theorem longestCut_iff : LongestCut ps t ↔ pieces t = (ps, []) := by
  constructor
  · intro h
    induction h with
    | nil => rw [pieces]; rfl
    | cons hlongest _ ih => rw [pieces_of_firstPiece? hlongest.firstPiece?, ih]
  · intro h
    have hcut := longestCut_pieces (t := t) (by rw [h])
    rwa [h] at hcut

/-! ## What longest match takes away -/

theorem forall_mem_snoc {class? : Char → Bool} {c : Char} (h : ∀ d ∈ t, class? d = true)
    (hc : class? c = true) : ∀ d ∈ t ++ [c], class? d = true :=
  List.forall_mem_append.2 ⟨h, List.forall_mem_singleton.2 hc⟩

theorem digits_snoc {c : Char} (h : t.Digits) (hc : isDigit c = true) : (t ++ [c]).Digits :=
  ⟨by simp, forall_mem_snoc h.2 hc⟩

theorem unsigned_snoc {c : Char} (h : Unsigned t) (hc : isDigit c = true) :
    Unsigned (t ++ [c]) := by
  cases h with
  | whole hds => exact .whole (digits_snoc hds hc)
  | decimal hds hes =>
    rw [List.append_assoc, List.cons_append]
    exact .decimal hds (digits_snoc hes hc)

/-- A piece with one more character that it goes on with is a piece. -/
theorem fits_snoc {k : PieceKind} {s : Text} {c : Char} (h : k.Fits s)
    (hc : k.goesOn c = true) : k.Fits (s ++ [c]) := by
  cases h with
  | blank hne hrun => exact .blank (by simp) (forall_mem_snoc hrun hc)
  | @comment body hbody =>
    refine .comment fun hmem => ?_
    rcases List.mem_append.1 hmem with hmem | hmem
    · exact hbody hmem
    · rw [← List.mem_singleton.1 hmem] at hc
      exact absurd hc (by decide)
  | string hquote hfeed => exact absurd hc Bool.false_ne_true
  | number hu => exact .number (unsigned_snoc hu hc)
  | negative hu => exact .negative (unsigned_snoc hu hc)
  | word hstart hrun => exact .word hstart (forall_mem_snoc hrun hc)

/-- The longest piece is followed by nothing that it goes on with. -/
theorem Longest.stops (h : Longest p (p.source ++ rest)) :
    ∀ c ∈ rest.head?, p.kind.goesOn c = false := by
  intro c hc
  obtain ⟨more, rfl⟩ : ∃ more, rest = c :: more := List.head?_eq_some_iff.1 hc
  refine Bool.eq_false_iff.2 fun hgoes => ?_
  have hle := h.longest p.kind (p.source ++ [c]) (fits_snoc h.fits hgoes) ⟨more, by simp⟩
  rw [List.length_append, List.length_singleton] at hle
  omega

theorem startsWith_of_decimal (h : Decimal t) : ∃ c ∈ t.head?, isDigit c = true := by
  obtain ⟨ds, es, hds, -, rfl⟩ := h
  obtain ⟨c, u, rfl, hc⟩ := startsWith_of_digits hds
  exact ⟨c, rfl, hc⟩

/-- Behind the longest piece there is none that it could take digits from. -/
theorem Longest.apart (h : Longest p (p.source ++ (q.source ++ rest))) : Apart p q := by
  intro hkind hdecimal
  obtain ⟨c, hc, hdigit⟩ := startsWith_of_decimal hdecimal
  have hhead : c ∈ (q.source ++ rest).head? := by
    rw [Option.mem_def] at hc ⊢
    rw [List.head?_append, hc, Option.some_or]
  have hstops := h.stops c hhead
  rcases hkind with hkind | hkind <;> rw [hkind] at hstops
  · exact absurd (isWordPart_of_isDigit hdigit) (Bool.eq_false_iff.1 hstops)
  · exact absurd hdigit (Bool.eq_false_iff.1 hstops)

theorem LongestCut.cut (h : LongestCut ps t) : Cut ps t := by
  induction h with
  | nil => exact .nil
  | cons hlongest _ ih =>
    refine .cons hlongest.fits (fun hkind c hc => ?_) ih
    have hstops := hlongest.stops c hc
    rw [hkind] at hstops
    simpa [PieceKind.goesOn, inLine] using hstops

theorem LongestCut.apart (h : LongestCut ps t) : ps.IsChain Apart := by
  induction h with
  | nil => exact .nil
  | cons hlongest hrest ih =>
    cases hrest with
    | nil => exact .singleton _
    | cons _ _ => exact .cons_cons hlongest.apart ih

/-! ## What longest match leaves -/

theorem fits_ne_nil {k : PieceKind} {s : Text} (h : k.Fits s) : s ≠ [] := by
  cases h with
  | blank hne _ => exact hne
  | number hu | negative hu =>
    obtain ⟨c, u, rfl, -⟩ := startsWith_of_unsigned hu
    exact List.cons_ne_nil _ _
  | comment _ | string _ _ | word _ _ => exact List.cons_ne_nil _ _

/-- Characters that are dropped from a text which can be cut: whole pieces, if after the
piece `p` each next one consists of such characters or starts with none. -/
theorem Cut.dropWhile {class? : Char → Bool} {I : Piece → Prop} (h : Cut ps t)
    (hchain : (p :: ps).IsChain Apart) (hp : I p)
    (hnext : ∀ p q, I p → Apart p q → q.Fits →
      (I q ∧ ∀ c ∈ q.source, class? c = true) ∨ ∀ c ∈ q.source.head?, class? c = false) :
    ∃ qs, Cut qs (t.dropWhile class?) ∧ qs.IsChain Apart := by
  induction h generalizing p with
  | nil => exact ⟨[], .nil, .nil⟩
  | @cons q ps rest hfits hcomment hrest ih =>
    obtain ⟨hapart, htail⟩ := List.isChain_cons_cons.1 hchain
    rcases hnext p q hp hapart hfits with ⟨hq, hall⟩ | hstop
    · rw [List.dropWhile_append_of_pos hall]
      exact ih htail hq
    · obtain ⟨c, s, hs⟩ := List.exists_cons_of_ne_nil (fits_ne_nil hfits)
      have hkeep : (q.source ++ rest).dropWhile class? = q.source ++ rest := by
        rw [hs] at hstop ⊢
        rw [List.cons_append, List.dropWhile_cons_of_neg]
        rw [hstop c rfl]
        exact Bool.false_ne_true
      rw [hkeep]
      exact ⟨q :: ps, .cons hfits hcomment hrest, htail⟩

/-- Only blanks start with a blank. -/
theorem isBlank_head?_of_fits {k : PieceKind} {s : Text} (h : k.Fits s) (hk : k ≠ .blank) :
    ∀ c ∈ s.head?, isBlank c = false := by
  intro c hc
  cases h with
  | blank _ _ => exact absurd rfl hk
  | comment _ | string _ _ | negative _ =>
    cases hc
    rfl
  | number hu =>
    obtain ⟨d, u, rfl, hd⟩ := startsWith_of_unsigned hu
    cases hc
    exact isBlank_of_isDigit hd
  | word hstart _ =>
    cases hc
    exact isBlank_of_isWordStart hstart

/-- A piece of some kind consists of blanks or starts with none. -/
theorem all_or_stops_blank (hq : q.Fits) :
    (∀ c ∈ q.source, isBlank c = true) ∨ ∀ c ∈ q.source.head?, isBlank c = false := by
  by_cases hkind : q.kind = .blank
  · have hblank : PieceKind.blank.Fits q.source := hkind ▸ hq
    cases hblank with
    | blank _ hrun => exact .inl hrun
  · exact .inr (isBlank_head?_of_fits hq hkind)

/-- What stands behind a word or a number consists of characters that go on with it, and is
a word or a number itself, or starts with none. -/
theorem all_or_stops {k : PieceKind} (hk : k = .word ∨ k = .number)
    (hp : p.kind = .word ∨ p.kind = .number) (hapart : Apart p q) (hq : q.Fits) :
    ((q.kind = .word ∨ q.kind = .number) ∧ ∀ c ∈ q.source, k.goesOn c = true) ∨
      ∀ c ∈ q.source.head?, k.goesOn c = false := by
  have hclass : ∀ c : Char, isWordPart c = false → k.goesOn c = false := by
    intro c hc
    rcases hk with rfl | rfl
    · exact hc
    · refine Bool.eq_false_iff.2 fun hdigit => ?_
      rw [isWordPart_of_isDigit hdigit] at hc
      exact Bool.false_ne_true hc.symm
  have hdigit : ∀ c : Char, isDigit c = true → k.goesOn c = true := by
    intro c hc
    rcases hk with rfl | rfl
    · exact isWordPart_of_isDigit hc
    · exact hc
  obtain ⟨kind, source⟩ := q
  cases hq with
  | @blank _ hne hrun =>
    obtain ⟨c, run, rfl⟩ := List.exists_cons_of_ne_nil hne
    refine .inr fun d hd => ?_
    cases hd
    exact hclass c (isWordPart_of_isBlank (hrun c List.mem_cons_self))
  | comment _ | string _ _ | negative _ =>
    exact .inr fun c hc => by cases hc; exact hclass _ (by decide)
  | number hu =>
    cases hu with
    | whole hds => exact .inl ⟨.inr rfl, fun c hc => hdigit c (hds.2 c hc)⟩
    | decimal hds hes => exact absurd ⟨_, _, hds, hes, rfl⟩ (hapart hp)
  | @word c run hstart hrun =>
    rcases hk with rfl | rfl
    · refine .inl ⟨.inl rfl, fun d hd => ?_⟩
      rcases List.mem_cons.1 hd with rfl | hd
      · exact isWordPart_of_isWordStart hstart
      · exact hrun d hd
    · refine .inr fun d hd => ?_
      cases hd
      refine Bool.eq_false_iff.2 fun hc => ?_
      exact Bool.false_ne_true ((isWordStart_of_isDigit hc).symm.trans hstart)

/-- No piece starts with a point. -/
theorem Cut.head?_ne_point (h : Cut ps t) : t.head? ≠ some '.' := by
  cases h with
  | nil => exact nofun
  | @cons p ps rest hfits _ _ =>
    obtain ⟨kind, source⟩ := p
    cases hfits with
    | @blank _ hne hrun =>
      obtain ⟨c, run, rfl⟩ := List.exists_cons_of_ne_nil hne
      rintro ⟨⟩
      exact absurd (hrun '.' List.mem_cons_self) (by decide)
    | number hu =>
      obtain ⟨c, u, rfl, hc⟩ := startsWith_of_unsigned hu
      rintro ⟨⟩
      exact absurd hc (by decide)
    | word hstart _ =>
      rintro ⟨⟩
      exact absurd hstart (by decide)
    | comment _ | string _ _ | negative _ => rintro ⟨⟩

/-- **The rest can be cut.**  Longest match takes from a text that can be cut a piece after
which the rest can still be cut. -/
theorem Cut.after_firstPiece? (h : Cut ps t) (hchain : ps.IsChain Apart)
    (hfirst : firstPiece? t = some (p, rest)) : ∃ qs, Cut qs rest ∧ qs.IsChain Apart := by
  cases h with
  | nil => exact absurd hfirst nofun
  | @cons q ps t hfits hcomment hcut =>
    have hglued : ∀ k : PieceKind, (k = .word ∨ k = .number) → (q.kind = .word ∨ q.kind = .number) →
        ∃ qs, Cut qs (t.dropWhile k.goesOn) ∧ qs.IsChain Apart := fun k hk hq =>
      hcut.dropWhile hchain hq fun _ _ hp hapart hfits => all_or_stops hk hp hapart hfits
    have hpoint : q.kind = .number → (t.dropWhile isDigit).head? ≠ some '.' := by
      intro hq
      obtain ⟨qs, hqs, -⟩ := hglued .number (.inr rfl) (.inr hq)
      exact hqs.head?_ne_point
    have hfound := hfits.firstPiece?_append hpoint
    obtain ⟨-, rfl⟩ := Prod.mk.inj (Option.some.inj (hfirst.symm.trans hfound))
    cases hkind : q.kind with
    | blank =>
      exact hcut.dropWhile (I := fun _ => True) hchain trivial fun _ _ _ _ hfits =>
        (all_or_stops_blank hfits).imp_left fun hall => ⟨trivial, hall⟩
    | comment =>
      have hline : t.dropWhile inLine = t := by
        cases t with
        | nil => rfl
        | cons c t =>
          rw [hcomment hkind c rfl]
          exact List.dropWhile_cons_of_neg (by decide)
      rw [PieceKind.goesOn, hline]
      exact ⟨ps, hcut, hchain.tail⟩
    | string =>
      have hall : t.dropWhile (fun _ => false) = t := by cases t <;> rfl
      rw [PieceKind.goesOn, hall]
      exact ⟨ps, hcut, hchain.tail⟩
    | number => exact hglued .number (.inr rfl) (.inr hkind)
    | word => exact hglued .word (.inl rfl) (.inl hkind)

/-- **When longest match does no harm.**  A text that can be cut into pieces, none of them a
decimal directly behind a word or a number, can be cut by longest match. -/
theorem longestCut_of_cut (h : Cut ps t) (hchain : ps.IsChain Apart) :
    ∃ qs, LongestCut qs t := by
  suffices hnil : (pieces t).2 = [] from ⟨_, longestCut_pieces hnil⟩
  fun_induction pieces t generalizing ps with
  | case1 t hnone =>
    cases h with
    | nil => rfl
    | cons hfits _ _ =>
      obtain ⟨more, rest, hsome⟩ := hfits.extends_firstPiece? _
      exact absurd (hsome.symm.trans hnone) (Option.some_ne_none _)
  | case2 t p rest hsome ih =>
    obtain ⟨qs, hqs, hchain⟩ := h.after_firstPiece? hchain hsome
    exact ih hqs hchain

end Token
end GymLang
