import GymLang.Proofs.Token.PieceByPiece

/-!
# The word a line starts with

A line may have blanks and comments before its first token.  `Leads` says that after them
the line starts with a certain word, and where.

* `leads_of_tokenize` — a first token that is a word is what its line starts with.
* `Leads.tokensFrom_eq` — the tokens of such a line: the word and those of what follows it.
* `Leads.getLast?_before`, `Leads.head?_after` — the word is not part of a longer run of
  letters, digits and underscores.
-/

namespace GymLang
namespace Token

/-- A line that starts with the word `w`, when the last argument is put in front of it and
`after` behind it: what is in front are blanks and comments. -/
inductive Leads (w after : Text) : Text → Prop
  | word : PieceKind.word.Fits w → PieceKind.word.Stops after → Leads w after []
  | gap {p : Piece} {before : Text} :
      p.Fits → p.kind = .blank ∨ p.kind = .comment → p.kind.Stops (before ++ w ++ after) →
      Leads w after before → Leads w after (p.source ++ before)

variable {p : Piece} {ps : List Piece} {t : Token} {tokens : List Token} {start : Nat}
  {w before after line : Text}

theorem Leads.fits (h : Leads w after before) : PieceKind.word.Fits w := by
  induction h with
  | word hfits _ => exact hfits
  | gap _ _ _ _ ih => exact ih

/-! ## The first token -/

/-- The first token of a line that is cut by longest match. -/
theorem leads_of_longestCut (h : LongestCut ps line) (htokens : ofPieces start ps = t :: tokens)
    (hkind : t.kind = .word) :
    ∃ before after, line = before ++ t.text ++ after ∧ Leads t.text after before ∧
      t.span = ⟨start + Text.bytes before, start + Text.bytes (before ++ t.text)⟩ := by
  induction h generalizing start with
  | nil => exact absurd htokens (by simp [ofPieces])
  | @cons p ps rest hlongest _ ih =>
    rw [ofPieces] at htokens
    cases htoken : p.token? start with
    | none =>
      have hgap : p.kind = .blank ∨ p.kind = .comment := token?_eq_none_iff.1 htoken
      rw [htoken, Option.toList_none, List.nil_append] at htokens
      obtain ⟨before, after, rfl, hleads, hspan⟩ := ih htokens
      refine ⟨p.source ++ before, after, by simp, ?_, by simp [hspan, Nat.add_assoc]⟩
      refine .gap hlongest.fits hgap (hlongest.stopped ?_) hleads
      rcases hgap with hgap | hgap <;> simp [hgap]
    | some u =>
      rw [htoken, Option.toList_some, List.singleton_append] at htokens
      obtain ⟨rfl, -⟩ := List.cons.inj htokens
      obtain ⟨hdisplay, hpiece⟩ := display_of_token? hlongest.fits htoken
      have hword : p.kind = .word := by rw [← hpiece, hkind]; rfl
      have hsource : p.source = u.text := by
        rw [← hdisplay, display_eq_text (by simp [hkind])]
      have hfits := hlongest.fits
      have hstops := hlongest.stopped (by simp [hword])
      rw [Piece.Fits, hword, hsource] at hfits
      rw [hword] at hstops
      refine ⟨[], rest, by simp [hsource], .word hfits hstops, ?_⟩
      simp [span_of_token? htoken, hsource]

/-- **A first token that is a word is what the line starts with.** -/
theorem leads_of_tokenize (h : tokenize line = .ok (t :: tokens)) (hkind : t.kind = .word) :
    ∃ before after, line = before ++ t.text ++ after ∧ Leads t.text after before ∧
      t.span = ⟨Text.bytes before, Text.bytes (before ++ t.text)⟩ := by
  obtain ⟨ps, hcut, htokens⟩ := tokenize_eq_ok_iff.1 h
  simpa only [Nat.zero_add] using leads_of_longestCut hcut htokens.symm hkind

/-- **The tokens of a line that starts with a word** are the word and those of what follows
it. -/
theorem Leads.tokensFrom_eq (h : Leads w after before) (start : Nat) :
    tokensFrom start (before ++ w ++ after) =
      (tokensFrom (start + Text.bytes (before ++ w)) after).map
        (⟨.word, w, ⟨start + Text.bytes before, start + Text.bytes (before ++ w)⟩⟩ :: ·) := by
  induction h generalizing start with
  | word hfits hstops => simpa using tokensFrom_token hfits hstops rfl
  | @gap p before hfits hgap hstops _ ih =>
    have hassoc : p.source ++ before ++ w ++ after = p.source ++ (before ++ w ++ after) := by simp
    rw [hassoc, tokensFrom_gap hfits hstops hgap, ih]
    simp [Nat.add_assoc]

/-! ## What stands on either side -/

theorem Leads.head?_after (h : Leads w after before) :
    ∀ c ∈ after.head?, isWordPart c = false := by
  induction h with
  | word _ hstops => exact hstops.goesOn
  | gap _ _ _ _ ih => exact ih

/-- A comment would go on with a word behind it, so what stands directly in front of the word
is a blank. -/
theorem eq_blank_of_stops {k : PieceKind} (hw : PieceKind.word.Fits w)
    (hgap : k = .blank ∨ k = .comment) (hstops : k.Stops (w ++ after)) : k = .blank := by
  rcases hgap with rfl | rfl
  · rfl
  · cases hw with
    | @word c u hstart _ =>
      have hline : inLine c = false := hstops.goesOn c rfl
      simp only [inLine, bne_eq_false_iff_eq] at hline
      subst hline
      exact absurd hstart (by decide)

theorem Leads.getLast?_before (h : Leads w after before) :
    ∀ c ∈ before.getLast?, isWordPart c = false := by
  induction h with
  | word _ _ => simp
  | @gap p before hfits hgap hstops hleads ih =>
    by_cases hbefore : before = []
    · subst hbefore
      have hblank : PieceKind.blank.Fits p.source :=
        eq_blank_of_stops hleads.fits hgap hstops ▸ hfits
      cases hblank with
      | blank _ hrun =>
        intro c hc
        rw [List.append_nil] at hc
        exact isWordPart_of_isBlank (hrun c (List.mem_of_getLast? hc))
    · rw [List.getLast?_append_of_ne_nil _ hbefore]
      exact ih

end Token
end GymLang
