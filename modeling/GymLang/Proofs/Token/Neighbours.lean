import GymLang.Proofs.Token.Layout

/-!
# What stands next to a token

Longest match leaves no digit behind a number or a word, and so none of the characters of a
word can stand in front of a number without a sign.  Behind it can only be those of a word
that starts right there, as in `5x`.

* `mem_ofPieces_iff` — a token of a line is that of one of its pieces.
* `LongestCut.split` — the pieces from one on are again cut by longest match.
* `LongestCut.isWordPart_getLast?`, `LongestCut.isWordPart_head?` — the neighbours of a piece
  that starts with a digit and of one that is followed by no word.
* `stands_apart_of_number` — **a number stands apart** from letters, digits and underscores.
-/

namespace GymLang
namespace Token

open Text (bytes isDigit Unsigned)

variable {p : Piece} {ps qs : List Piece} {tokens : List Token} {t : Token} {start : Nat}
  {line text rest : Text} {c : Char}

/-! ## Pieces and tokens -/

/-- The tokens of pieces are those of single ones, each behind the pieces in front of it. -/
theorem mem_ofPieces_iff : t ∈ ofPieces start ps ↔ ∃ left p right,
    ps = left ++ p :: right ∧ p.token? (start + bytes (Text.ofPieces left)) = some t := by
  constructor
  · intro h
    induction ps generalizing start with
    | nil => exact absurd h List.not_mem_nil
    | cons p ps ih =>
      rcases List.mem_append.1 h with h | h
      · exact ⟨[], p, ps, rfl, Option.mem_toList.1 h⟩
      · obtain ⟨left, q, right, rfl, hq⟩ := ih h
        refine ⟨p :: left, q, right, rfl, ?_⟩
        simpa [Text.ofPieces, Nat.add_assoc] using hq
  · rintro ⟨left, p, right, rfl, hp⟩
    induction left generalizing start with
    | nil => exact List.mem_append_left _ (Option.mem_toList.2 hp)
    | cons q left ih =>
      refine List.mem_append_right _ (ih ?_)
      simpa [Text.ofPieces, Nat.add_assoc] using hp

/-- From each piece on, a text that is cut by longest match is cut so. -/
theorem LongestCut.split (h : LongestCut (ps ++ qs) text) :
    ∃ rest, text = Text.ofPieces ps ++ rest ∧ LongestCut qs rest := by
  induction ps generalizing text with
  | nil => exact ⟨text, rfl, h⟩
  | cons p ps ih =>
    cases h with
    | @cons _ _ rest _ hrest =>
      obtain ⟨after, rfl, hafter⟩ := ih hrest
      refine ⟨after, ?_, hafter⟩
      simp [Text.ofPieces]

/-! ## Neighbours of a piece -/

/-- A piece that does not go on with the digit behind it ends in no letter or digit. -/
theorem Longest.isWordPart_getLast? (h : Longest p (p.source ++ rest)) (hc : c ∈ rest.head?)
    (hdigit : isDigit c = true) : ∀ d ∈ p.source.getLast?, isWordPart d = false := by
  have hstops := h.stops c hc
  have hfits := h.fits
  obtain ⟨kind, source⟩ := p
  intro d hd
  cases hfits with
  | blank _ hrun => exact isWordPart_of_isBlank (hrun d (List.mem_of_getLast? hd))
  | comment _ =>
    have hfeed : c = '\n' := by simpa [PieceKind.goesOn, inLine] using hstops
    exact absurd (hfeed ▸ hdigit) (by decide)
  | @string body _ _ =>
    have hlast : ('"' :: body ++ ['"']).getLast? = some '"' := List.getLast?_concat
    obtain rfl : '"' = d := Option.some.inj (hlast.symm.trans hd)
    decide
  | number _ | negative _ => exact absurd hdigit (Bool.eq_false_iff.1 hstops)
  | word _ _ => exact absurd (isWordPart_of_isDigit hdigit) (Bool.eq_false_iff.1 hstops)

/-- Only words start with a letter. -/
theorem Longest.kind_eq_word (h : Longest p (p.source ++ rest)) (hc : c ∈ p.source.head?)
    (hstart : isWordStart c = true) : p.kind = .word := by
  obtain ⟨s, hs⟩ := List.head?_eq_some_iff.1 hc
  have hfound := h.firstPiece?
  rw [hs, List.cons_append, firstPiece?_word hstart] at hfound
  rw [← (Prod.mk.inj (Option.some.inj hfound)).1]

/-- In front of a piece that starts with a digit there is no letter or digit. -/
theorem LongestCut.isWordPart_getLast? (h : LongestCut (ps ++ p :: qs) text)
    (hc : c ∈ p.source.head?) (hdigit : isDigit c = true) :
    ∀ d ∈ (Text.ofPieces ps).getLast?, isWordPart d = false := by
  rcases List.eq_nil_or_concat ps with rfl | ⟨front, q, rfl⟩
  · exact nofun
  · rw [List.concat_eq_append] at h ⊢
    rw [List.append_assoc] at h
    obtain ⟨_, -, hrest⟩ := h.split
    cases hrest with
    | @cons _ _ rest hlongest hrest =>
      have hne : q.source ≠ [] := fits_ne_nil hlongest.fits
      have hhead : c ∈ rest.head? := by
        cases hrest with
        | cons _ _ =>
          rw [Option.mem_def] at hc ⊢
          rw [List.head?_append, hc, Option.some_or]
      intro d hd
      refine hlongest.isWordPart_getLast? hhead hdigit d ?_
      simpa [Text.ofPieces, List.getLast?_append_of_ne_nil _ hne] using hd

/-- Behind a piece that no digit and no word follows there is no letter. -/
theorem LongestCut.isWordPart_head? (h : LongestCut ps text)
    (hdigit : ∀ c ∈ text.head?, isDigit c = false) (hword : ∀ p ∈ ps.head?, p.kind ≠ .word) :
    ∀ c ∈ text.head?, isWordPart c = false := by
  intro c hc
  refine Bool.or_eq_false_iff.2 ⟨?_, hdigit c hc⟩
  cases h with
  | nil => exact absurd hc nofun
  | @cons p _ rest hlongest _ =>
    have hhead : c ∈ p.source.head? := by
      obtain ⟨d, s, hs⟩ := List.exists_cons_of_ne_nil (fits_ne_nil hlongest.fits)
      rw [hs] at hc ⊢
      exact hc
    exact Bool.eq_false_iff.2 fun hstart => hword p rfl (hlongest.kind_eq_word hhead hstart)

/-! ## Neighbours of a number -/

/-- **A number stands apart.**  On neither side of a number without a sign is there a letter,
a digit or an underscore, if no word starts where it stops. -/
theorem stands_apart_of_number (h : tokenize line = .ok tokens) (ht : t ∈ tokens)
    (hkind : t.kind = .number) (hsign : t.text.head? ≠ some '-')
    (hword : ∀ s ∈ tokens, s.kind = .word → s.span.start ≠ t.span.stop) :
    Unsigned t.text ∧ ∃ before after, line = before ++ t.text ++ after ∧
      t.span = ⟨bytes before, bytes (before ++ t.text)⟩ ∧
      (∀ c ∈ before.getLast?, isWordPart c = false) ∧
      ∀ c ∈ after.head?, isWordPart c = false := by
  have htext : t.display = t.text := display_eq_text (by rw [hkind]; exact nofun)
  have hunsigned : Unsigned t.text := by
    have hfits := (laidOut_of_tokenize h).fits t ht
    rw [htext, hkind] at hfits
    generalize t.text = s at hfits hsign
    cases hfits with
    | number hu => exact hu
    | negative _ => exact absurd rfl hsign
  refine ⟨hunsigned, ?_⟩
  obtain ⟨ps, hcut, rfl⟩ := tokenize_eq_ok_iff.1 h
  obtain ⟨left, p, right, rfl, htoken⟩ := mem_ofPieces_iff.1 ht
  obtain ⟨rest, rfl, hrest⟩ := hcut.split
  cases hrest with
  | @cons _ _ after hlongest hafter =>
    obtain ⟨hsource, hpiece⟩ := display_of_token? hlongest.fits htoken
    rw [htext] at hsource
    rw [hkind] at hpiece
    have hspan := span_of_token? htoken
    rw [Nat.zero_add, ← hsource, ← Text.bytes_append] at hspan
    obtain ⟨c, s, hs, hdigit⟩ := startsWith_of_unsigned hunsigned
    refine ⟨Text.ofPieces left, after, ?_, hspan, ?_, ?_⟩
    · rw [hsource, List.append_assoc]
    · have hhead : c ∈ p.source.head? := by
        rw [← hsource, hs]
        rfl
      exact hcut.isWordPart_getLast? hhead hdigit
    · refine hafter.isWordPart_head? (fun d hd => ?_) (fun q hq hqword => ?_)
      · have hstops := hlongest.stops d hd
        rwa [← hpiece] at hstops
      · -- a word right behind the number starts where that stops
        obtain ⟨more, rfl⟩ := List.head?_eq_some_iff.1 hq
        have hstart : q.token? (0 + bytes (Text.ofPieces (left ++ [p]))) = some
            ⟨.word, q.source, ⟨t.span.stop, t.span.stop + bytes q.source⟩⟩ := by
          have hstop : 0 + bytes (Text.ofPieces (left ++ [p])) = t.span.stop := by
            rw [hspan, hsource]
            simp [Text.ofPieces]
          rw [hstop, Piece.token?, hqword]
        have hpieces : left ++ p :: q :: more = left ++ [p] ++ q :: more := by simp
        exact hword _ (mem_ofPieces_iff.2 ⟨left ++ [p], q, more, hpieces, hstart⟩) rfl rfl

end Token
end GymLang
