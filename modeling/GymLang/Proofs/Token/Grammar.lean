import GymLang.Token.Lexer

/-!
# The pieces of a line

`Token.firstPiece?` finds the piece a text starts with by taking runs of characters.
`PieceKind.Fits` says without any scanning what the pieces of each kind are, and the two
are compared here.

* `fits_of_firstPiece?` — what is found is a piece.
* `Fits.firstPiece?_append` — a piece is found where it stands, unless what follows goes on
  with it.
* `Fits.extends_firstPiece?` — where a piece stands, one of its kind is found that is at
  least as long.
* `prefix_of_firstPiece?` — **nothing longer than what is found fits.**
-/

namespace GymLang

open Token

/-! ## What fits -/

/-- One or more digits. -/
def Text.Digits (t : Text) : Prop := t ≠ [] ∧ ∀ c ∈ t, isDigit c = true

/-- A number without a sign: digits, and perhaps a point and more digits. -/
inductive Text.Unsigned : Text → Prop
  | whole {ds : Text} : ds.Digits → Unsigned ds
  | decimal {ds es : Text} : ds.Digits → es.Digits → Unsigned (ds ++ '.' :: es)

open Text (Digits Unsigned isDigit)

/-- The pieces of each kind, as they are written. -/
inductive PieceKind.Fits : PieceKind → Text → Prop
  | blank {t : Text} : t ≠ [] → (∀ c ∈ t, isBlank c = true) → Fits .blank t
  | comment {body : Text} : '\n' ∉ body → Fits .comment ('#' :: body)
  | string {body : Text} : '"' ∉ body → '\n' ∉ body → Fits .string ('"' :: body ++ ['"'])
  | number {t : Text} : Unsigned t → Fits .number t
  | negative {t : Text} : Unsigned t → Fits .number ('-' :: t)
  | word {c : Char} {t : Text} :
      isWordStart c = true → (∀ d ∈ t, isWordPart d = true) → Fits .word (c :: t)

/-- A piece that is written as the pieces of its kind are. -/
abbrev Piece.Fits (p : Piece) : Prop := p.kind.Fits p.source

/-- The characters that a piece of some kind goes on with, whatever it is so far. -/
def PieceKind.goesOn : PieceKind → Char → Bool
  | .blank => isBlank
  | .comment => inLine
  | .string => fun _ => false
  | .number => isDigit
  | .word => isWordPart

/-! ## Classes of characters -/

namespace Token

variable {c : Char}

theorem eq_of_isBlank (h : isBlank c = true) : c = ' ' ∨ c = '\t' ∨ c = '\r' ∨ c = '\n' := by
  simpa only [isBlank, Bool.or_eq_true, beq_iff_eq, or_assoc] using h

theorem isBlank_of_isWordStart (h : isWordStart c = true) : isBlank c = false := by
  refine Bool.eq_false_iff.2 fun hblank => ?_
  rcases eq_of_isBlank hblank with rfl | rfl | rfl | rfl <;> exact absurd h (by decide)

theorem isBlank_of_isDigit (h : isDigit c = true) : isBlank c = false := by
  refine Bool.eq_false_iff.2 fun hblank => ?_
  rcases eq_of_isBlank hblank with rfl | rfl | rfl | rfl <;> exact absurd h (by decide)

theorem isWordStart_of_isDigit (h : isDigit c = true) : isWordStart c = false := by
  refine Bool.eq_false_iff.2 fun hword => ?_
  simp only [isWordStart, isDigit, Bool.or_eq_true, Bool.and_eq_true, decide_eq_true_eq,
    Char.le_def, UInt32.le_iff_toNat_le, beq_iff_eq] at h hword
  rcases hword with (hword | hword) | rfl
  · exact absurd (Nat.le_trans hword.1 h.2) (by decide)
  · exact absurd (Nat.le_trans hword.1 h.2) (by decide)
  · exact absurd h.2 (by decide)

theorem isWordPart_of_isDigit (h : isDigit c = true) : isWordPart c = true := by
  rw [isWordPart, h, Bool.or_true]

theorem isWordPart_of_isWordStart (h : isWordStart c = true) : isWordPart c = true := by
  rw [isWordPart, h, Bool.true_or]

theorem isWordPart_of_isBlank (h : isBlank c = true) : isWordPart c = false := by
  rcases eq_of_isBlank h with rfl | rfl | rfl | rfl <;> rfl

/-- A character of a class is none that is not of the class. -/
theorem ne_of_class {p : Char → Bool} {d : Char} (hc : p c = true) (hd : p d = false) : c ≠ d := by
  rintro rfl
  exact Bool.false_ne_true (hd.symm.trans hc)

/-! ## The piece at the start -/

variable {t : Text}

theorem firstPiece?_blank (h : isBlank c = true) :
    firstPiece? (c :: t) = some (⟨.blank, c :: t.takeWhile isBlank⟩, t.dropWhile isBlank) := by
  rw [firstPiece?, if_pos h, run]

theorem firstPiece?_comment :
    firstPiece? ('#' :: t) = some (⟨.comment, '#' :: t.takeWhile inLine⟩, t.dropWhile inLine) := by
  rw [firstPiece?, if_neg (by decide), if_pos rfl, run]

theorem firstPiece?_word (h : isWordStart c = true) :
    firstPiece? (c :: t) =
      some (⟨.word, c :: t.takeWhile isWordPart⟩, t.dropWhile isWordPart) := by
  have hblank : ¬ isBlank c = true := Bool.eq_false_iff.1 (isBlank_of_isWordStart h)
  rw [firstPiece?, if_neg hblank, if_neg (ne_of_class h (by decide)), if_pos h, run]

theorem firstPiece?_number (h : isDigit c = true) :
    firstPiece? (c :: t) =
      some (⟨.number, (spanNumber (c :: t)).1⟩, (spanNumber (c :: t)).2) := by
  have hblank : ¬ isBlank c = true := Bool.eq_false_iff.1 (isBlank_of_isDigit h)
  have hword : ¬ isWordStart c = true := Bool.eq_false_iff.1 (isWordStart_of_isDigit h)
  rw [firstPiece?, if_neg hblank, if_neg (ne_of_class h (by decide)), if_neg hword, if_pos h]

theorem firstPiece?_negative (h : isDigit c = true) :
    firstPiece? ('-' :: c :: t) =
      some (⟨.number, '-' :: (spanNumber (c :: t)).1⟩, (spanNumber (c :: t)).2) := by
  rw [firstPiece?, if_neg (by decide), if_neg (by decide), if_neg (by decide),
    if_neg (by decide), if_pos rfl, startsWithDigit, if_pos h]

theorem firstPiece?_string {body : Text} (hquote : '"' ∉ body) (hfeed : '\n' ∉ body) :
    firstPiece? ('"' :: body ++ '"' :: t) = some (⟨.string, '"' :: body ++ ['"']⟩, t) := by
  have hbody : ∀ c ∈ body, inString c = true := by
    intro c hc
    have hne : c ≠ '"' := fun h => hquote (h ▸ hc)
    have hne' : c ≠ '\n' := fun h => hfeed (h ▸ hc)
    simp [inString, hne, hne']
  have hrun : run inString (body ++ '"' :: t) = (body, '"' :: t) := by
    rw [run, List.takeWhile_append_of_pos hbody, List.dropWhile_append_of_pos hbody]
    simp [inString]
  rw [List.cons_append, firstPiece?, if_neg (by decide), if_neg (by decide), if_neg (by decide),
    if_neg (by decide), if_neg (by decide), if_pos rfl, hrun]
  rfl

/-! ## Numbers -/

variable {ds es r : Text}

theorem startsWith_of_digits (h : ds.Digits) : ∃ c t, ds = c :: t ∧ isDigit c = true := by
  obtain ⟨c, t, rfl⟩ := List.exists_cons_of_ne_nil h.1
  exact ⟨c, t, rfl, h.2 c List.mem_cons_self⟩

theorem takeWhile_digits (h : ds.Digits) (r : Text) :
    (ds ++ r).takeWhile isDigit = ds ++ r.takeWhile isDigit :=
  List.takeWhile_append_of_pos h.2

theorem dropWhile_digits (h : ds.Digits) (r : Text) :
    (ds ++ r).dropWhile isDigit = r.dropWhile isDigit :=
  List.dropWhile_append_of_pos h.2

theorem spanNumber_decimal (hds : ds.Digits) (hes : es.Digits) (r : Text) :
    spanNumber (ds ++ '.' :: (es ++ r)) =
      (ds ++ '.' :: (es ++ r.takeWhile isDigit), r.dropWhile isDigit) := by
  obtain ⟨d, t, rfl, hd⟩ := startsWith_of_digits hes
  have htail : ∀ c ∈ t, isDigit c = true := fun c hc => hes.2 c (List.mem_cons_of_mem d hc)
  have htake : (ds ++ '.' :: d :: (t ++ r)).takeWhile isDigit = ds := by
    rw [takeWhile_digits hds, List.takeWhile_cons_of_neg (by decide), List.append_nil]
  have hdrop : (ds ++ '.' :: d :: (t ++ r)).dropWhile isDigit = '.' :: d :: (t ++ r) := by
    rw [dropWhile_digits hds, List.dropWhile_cons_of_neg (by decide)]
  rw [List.cons_append, spanNumber, hdrop]
  simp only [hd, if_true, htake, List.takeWhile_append_of_pos htail,
    List.dropWhile_append_of_pos htail, List.cons_append]

/-- Digits that are not followed by a point, when all that follow have been taken. -/
theorem spanNumber_whole (hds : ds.Digits) (hpoint : (r.dropWhile isDigit).head? ≠ some '.') :
    spanNumber (ds ++ r) = (ds ++ r.takeWhile isDigit, r.dropWhile isDigit) := by
  have hrun : run isDigit (ds ++ r) = (ds ++ r.takeWhile isDigit, r.dropWhile isDigit) := by
    rw [run, takeWhile_digits hds, dropWhile_digits hds]
  rw [spanNumber, dropWhile_digits hds]
  split
  · rename_i d rest hrest
    exact absurd (by rw [hrest]; rfl) hpoint
  · exact hrun

theorem unsigned_spanNumber (h : isDigit c = true) (t : Text) :
    Unsigned (spanNumber (c :: t)).1 := by
  have hwhole : Digits ((c :: t).takeWhile isDigit) := by
    refine ⟨by simp [h], fun d hd => ?_⟩
    exact List.all_eq_true.1 List.all_takeWhile d hd
  unfold spanNumber
  split
  · rename_i d rest hrest
    split
    · rename_i hd
      refine .decimal hwhole ⟨by simp, ?_⟩
      intro e he
      rcases List.mem_cons.1 he with rfl | he
      · exact hd
      · exact List.all_eq_true.1 List.all_takeWhile e he
    · exact .whole hwhole
  · exact .whole hwhole

/-- A number is taken in full, and perhaps more than it. -/
theorem extends_spanNumber {u : Text} (h : Unsigned u) (r : Text) :
    ∃ more, (spanNumber (u ++ r)).1 = u ++ more := by
  cases h with
  | whole hds =>
    unfold spanNumber
    split
    · split
      · rw [takeWhile_digits hds]
        exact ⟨_, List.append_assoc ..⟩
      · rw [run, takeWhile_digits hds]
        exact ⟨_, rfl⟩
    · rw [run, takeWhile_digits hds]
      exact ⟨_, rfl⟩
  | @decimal ds es hds hes =>
    rw [List.append_assoc, List.cons_append, spanNumber_decimal hds hes r]
    exact ⟨r.takeWhile isDigit, by simp⟩

/-- A number is taken with the digits behind it, if no point follows these. -/
theorem spanNumber_unsigned {u : Text} (h : Unsigned u)
    (hpoint : (r.dropWhile isDigit).head? ≠ some '.') :
    spanNumber (u ++ r) = (u ++ r.takeWhile isDigit, r.dropWhile isDigit) := by
  cases h with
  | whole hds => exact spanNumber_whole hds hpoint
  | @decimal ds es hds hes =>
    simp only [List.append_assoc, List.cons_append, spanNumber_decimal hds hes r]

theorem startsWith_of_unsigned {u : Text} (h : Unsigned u) :
    ∃ c t, u = c :: t ∧ isDigit c = true := by
  cases h with
  | whole hds => exact startsWith_of_digits hds
  | decimal hds hes =>
    obtain ⟨c, t, rfl, hc⟩ := startsWith_of_digits hds
    exact ⟨c, _, List.cons_append, hc⟩

end Token

/-! ## What is found is what fits -/

open Token

variable {k : PieceKind} {s t rest : Text} {p : Piece}

/-- What stands up to a closing quote is a string with it. -/
theorem fits_string {body after : Text} (h : run inString t = (body, '"' :: after)) :
    PieceKind.string.Fits ('"' :: body ++ ['"']) := by
  have hbody : ∀ d ∈ body, inString d = true := by
    obtain ⟨rfl, -⟩ := Prod.mk.inj h
    exact List.all_eq_true.1 List.all_takeWhile
  refine .string (fun hmem => absurd (hbody _ hmem) (by decide)) ?_
  exact fun hmem => absurd (hbody _ hmem) (by decide)

/-- **What is found is a piece.** -/
theorem fits_of_firstPiece? (h : firstPiece? t = some (p, rest)) : p.Fits := by
  cases t with
  | nil => exact absurd h (by simp [firstPiece?])
  | cons c t =>
    by_cases hblank : isBlank c = true
    · rw [firstPiece?_blank hblank] at h
      obtain ⟨rfl, -⟩ := Prod.mk.inj (Option.some.inj h)
      refine .blank (List.cons_ne_nil _ _) fun d hd => ?_
      rcases List.mem_cons.1 hd with rfl | hd
      · exact hblank
      · exact List.all_eq_true.1 List.all_takeWhile d hd
    by_cases hcomment : c = '#'
    · rw [hcomment, firstPiece?_comment] at h
      obtain ⟨rfl, -⟩ := Prod.mk.inj (Option.some.inj h)
      refine .comment fun hmem => ?_
      exact absurd (List.all_eq_true.1 List.all_takeWhile _ hmem) (by decide)
    by_cases hword : isWordStart c = true
    · rw [firstPiece?_word hword] at h
      obtain ⟨rfl, -⟩ := Prod.mk.inj (Option.some.inj h)
      exact .word hword (List.all_eq_true.1 List.all_takeWhile)
    by_cases hdigit : isDigit c = true
    · rw [firstPiece?_number hdigit] at h
      obtain ⟨rfl, -⟩ := Prod.mk.inj (Option.some.inj h)
      exact .number (unsigned_spanNumber hdigit t)
    rw [firstPiece?, if_neg hblank, if_neg hcomment, if_neg hword, if_neg hdigit] at h
    split at h
    · rename_i hminus
      cases t with
      | nil => exact absurd h (by simp [startsWithDigit])
      | cons d t =>
        split at h
        · rename_i hd
          obtain ⟨rfl, -⟩ := Prod.mk.inj (Option.some.inj h)
          rw [hminus]
          exact .negative (unsigned_spanNumber hd t)
        · exact absurd h (by simp)
    · split at h
      · rename_i hquote
        split at h
        · rename_i body after hrun
          obtain ⟨rfl, -⟩ := Prod.mk.inj (Option.some.inj h)
          rw [hquote]
          exact fits_string hrun
        · exact absurd h (by simp)
      · exact absurd h (by simp)

/-- **A piece is found where it stands.**  With it comes what follows that it goes on with,
unless digits are followed by a point. -/
theorem PieceKind.Fits.firstPiece?_append (h : k.Fits s)
    (hpoint : k = .number → (t.dropWhile isDigit).head? ≠ some '.') :
    firstPiece? (s ++ t) = some (⟨k, s ++ t.takeWhile k.goesOn⟩, t.dropWhile k.goesOn) := by
  cases h with
  | @blank run hne hrun =>
    obtain ⟨c, run, rfl⟩ := List.exists_cons_of_ne_nil hne
    have htail : ∀ d ∈ run, isBlank d = true := fun d hd => hrun d (List.mem_cons_of_mem c hd)
    rw [List.cons_append, firstPiece?_blank (hrun c List.mem_cons_self),
      List.takeWhile_append_of_pos htail, List.dropWhile_append_of_pos htail]
    rfl
  | @comment body hbody =>
    have hline : ∀ d ∈ body, inLine d = true := by
      intro d hd
      have hne : d ≠ '\n' := fun h => hbody (h ▸ hd)
      simp [inLine, hne]
    rw [List.cons_append, firstPiece?_comment, List.takeWhile_append_of_pos hline,
      List.dropWhile_append_of_pos hline]
    rfl
  | @string body hquote hfeed =>
    rw [List.append_assoc, List.singleton_append, firstPiece?_string hquote hfeed]
    have htake : t.takeWhile (fun _ => false) = [] := by cases t <;> rfl
    have hdrop : t.dropWhile (fun _ => false) = t := by cases t <;> rfl
    rw [PieceKind.goesOn, htake, hdrop, List.append_nil]
  | number hu =>
    have hspan := spanNumber_unsigned hu (hpoint rfl)
    obtain ⟨c, u, rfl, hc⟩ := startsWith_of_unsigned hu
    rw [List.cons_append] at hspan
    rw [List.cons_append, firstPiece?_number hc, hspan]
    rfl
  | negative hu =>
    have hspan := spanNumber_unsigned hu (hpoint rfl)
    obtain ⟨c, u, rfl, hc⟩ := startsWith_of_unsigned hu
    rw [List.cons_append] at hspan
    rw [List.cons_append, List.cons_append, firstPiece?_negative hc, hspan]
    rfl
  | @word c run hc hrun =>
    rw [List.cons_append, firstPiece?_word hc, List.takeWhile_append_of_pos hrun,
      List.dropWhile_append_of_pos hrun]
    rfl

/-- Where a piece stands, one of its kind is found that starts with it. -/
theorem PieceKind.Fits.extends_firstPiece? (h : k.Fits s) (t : Text) :
    ∃ more rest, firstPiece? (s ++ t) = some (⟨k, s ++ more⟩, rest) := by
  cases h with
  | number hu =>
    obtain ⟨more, hmore⟩ := extends_spanNumber hu t
    obtain ⟨c, u, rfl, hc⟩ := startsWith_of_unsigned hu
    rw [List.cons_append] at hmore
    exact ⟨more, _, by rw [List.cons_append, firstPiece?_number hc, hmore, List.cons_append]⟩
  | negative hu =>
    obtain ⟨more, hmore⟩ := extends_spanNumber hu t
    obtain ⟨c, u, rfl, hc⟩ := startsWith_of_unsigned hu
    rw [List.cons_append] at hmore
    exact ⟨more, _, by
      rw [List.cons_append, List.cons_append, firstPiece?_negative hc, hmore]; rfl⟩
  | blank hne hrun => exact ⟨_, _, firstPiece?_append (.blank hne hrun) nofun⟩
  | comment hbody => exact ⟨_, _, firstPiece?_append (.comment hbody) nofun⟩
  | string hquote hfeed => exact ⟨_, _, firstPiece?_append (.string hquote hfeed) nofun⟩
  | word hc hrun => exact ⟨_, _, firstPiece?_append (.word hc hrun) nofun⟩

/-- **Nothing longer fits.**  Whatever piece a text starts with is of the kind of the one that
is found, and a part of it. -/
theorem prefix_of_firstPiece? (h : firstPiece? t = some (p, rest)) (hfits : k.Fits s)
    (hstarts : s <+: t) : k = p.kind ∧ s <+: p.source := by
  obtain ⟨after, rfl⟩ := hstarts
  obtain ⟨more, rest', hfound⟩ := hfits.extends_firstPiece? after
  obtain ⟨rfl, -⟩ := Prod.mk.inj (Option.some.inj (h.symm.trans hfound))
  exact ⟨rfl, more, rfl⟩

end GymLang
