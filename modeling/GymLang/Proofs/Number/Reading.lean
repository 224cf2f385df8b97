import GymLang.Number.Reading
import GymLang.Proofs.Token.Grammar

/-!
# Numbers of the language can be read

What the lexer takes for a number is a number for the reader as well, of any length.

* `Spells` — the value that a number without a sign spells out.
* `fits_number_iff` — the numbers of the language are those that spell out a value.
* `read?_of_spells` — the reader takes just that value, with or without a minus sign.
* `exists_read?` — so every number of the language can be read.
-/

namespace GymLang
namespace Number

open Text (Digits Unsigned isDigit)

theorem takeWhile_self {ds : Text} (h : ds.Digits) : ds.takeWhile isDigit = ds := by
  simpa using Token.takeWhile_digits h []

theorem dropWhile_self {ds : Text} (h : ds.Digits) : ds.dropWhile isDigit = [] := by
  simpa using Token.dropWhile_digits h []

theorem isEmpty_digits {ds : Text} (h : ds.Digits) : ds.isEmpty = false :=
  List.isEmpty_eq_false_iff.2 h.1

/-- A text with a minus sign in front of it, or as it is. -/
def withSign (negative : Bool) (u : Text) : Text := if negative then '-' :: u else u

/-- A number without a sign, and its value: `n` over ten to the power of `places`. -/
inductive Spells : Text → Nat → Nat → Prop
  | whole {ds : Text} : ds.Digits → Spells ds (natOfDigits ds) 0
  | decimal {ds es : Text} : ds.Digits → es.Digits →
      Spells (ds ++ '.' :: es) (natOfDigits (ds ++ es)) es.length

theorem Spells.unsigned {u : Text} {n places : Nat} (h : Spells u n places) : Unsigned u := by
  cases h with
  | whole hds => exact .whole hds
  | decimal hds hes => exact .decimal hds hes

theorem exists_spells {u : Text} (h : Unsigned u) : ∃ n places, Spells u n places := by
  cases h with
  | whole hds => exact ⟨_, _, .whole hds⟩
  | decimal hds hes => exact ⟨_, _, .decimal hds hes⟩

theorem readDecimal?_of_spells {u : Text} {n places : Nat} (h : Spells u n places) :
    readDecimal? u = some ⟨n, -places⟩ := by
  cases h with
  | whole hds =>
    unfold readDecimal?
    simp [takeWhile_self hds, dropWhile_self hds, isEmpty_digits hds, readExponent?]
  | @decimal ds es hds hes =>
    have htake : (ds ++ '.' :: es).takeWhile isDigit = ds := by
      rw [Token.takeWhile_digits hds, List.takeWhile_cons_of_neg (by decide), List.append_nil]
    have hdrop : (ds ++ '.' :: es).dropWhile isDigit = '.' :: es := by
      rw [Token.dropWhile_digits hds, List.dropWhile_cons_of_neg (by decide)]
    unfold readDecimal?
    simp [htake, hdrop, takeWhile_self hes, dropWhile_self hes, isEmpty_digits hds, readExponent?]

theorem toLower_of_isDigit {c : Char} (h : isDigit c = true) : c.toLower = c := by
  simp only [isDigit, Bool.and_eq_true, decide_eq_true_eq, Char.le_def] at h
  refine dif_neg fun hupper => ?_
  exact absurd (UInt32.le_trans hupper.1 h.2) (by decide)

/-- Words for infinity and for what is no number do not start with a digit. -/
theorem map_toLower_ne {u w : Text} {d : Char} (h : Unsigned u) (hw : w.head? = some d)
    (hd : isDigit d = false) : u.map Char.toLower ≠ w := by
  obtain ⟨c, u, rfl, hc⟩ := Token.startsWith_of_unsigned h
  rintro rfl
  have hhead : c.toLower = d := Option.some.inj hw
  rw [← hhead, toLower_of_isDigit hc, hc] at hd
  exact Bool.false_ne_true hd.symm

/-- A number without its sign is read as a decimal. -/
theorem read?_of_splitSign {t u : Text} {negative : Bool} (h : splitSign t = (negative, u))
    (hu : Unsigned u) :
    read? t = (readDecimal? u).map fun d => ofMagnitude negative d.toMagnitude := by
  have hinf : ¬ (u.map Char.toLower = "inf".toList ∨ u.map Char.toLower = "infinity".toList) := by
    rintro (hword | hword)
    · exact map_toLower_ne (d := 'i') hu rfl rfl hword
    · exact map_toLower_ne (d := 'i') hu rfl rfl hword
  have hnan : u.map Char.toLower ≠ "nan".toList := map_toLower_ne (d := 'n') hu rfl rfl
  rw [read?, h]
  simp only [if_neg hinf, if_neg hnan]

theorem splitSign_unsigned {u : Text} (h : Unsigned u) : splitSign u = (false, u) := by
  obtain ⟨c, u, rfl, hc⟩ := Token.startsWith_of_unsigned h
  unfold splitSign
  split
  · rename_i hminus
    cases hminus
    exact absurd hc (by decide)
  · rename_i hplus
    cases hplus
    exact absurd hc (by decide)
  · rfl

/-- **A number is read as what it spells out.** -/
theorem read?_of_spells {u : Text} {n places : Nat} (h : Spells u n places) (negative : Bool) :
    read? (withSign negative u) =
      some (ofMagnitude negative (Decimal.toMagnitude ⟨n, -places⟩)) := by
  have hread : ∀ {t : Text}, splitSign t = (negative, u) →
      read? t = some (ofMagnitude negative (Decimal.toMagnitude ⟨n, -places⟩)) := by
    intro t ht
    rw [read?_of_splitSign ht h.unsigned, readDecimal?_of_spells h, Option.map_some]
  cases negative with
  | false => exact hread (splitSign_unsigned h.unsigned)
  | true => exact hread rfl

/-- The numbers of the language have a sign or none, and spell out a value. -/
theorem fits_number_iff {s : Text} : PieceKind.number.Fits s ↔
    ∃ negative u n places, s = withSign negative u ∧ Spells u n places := by
  constructor
  · intro h
    cases h with
    | number hu =>
      obtain ⟨n, places, hspells⟩ := exists_spells hu
      exact ⟨false, _, n, places, rfl, hspells⟩
    | negative hu =>
      obtain ⟨n, places, hspells⟩ := exists_spells hu
      exact ⟨true, _, n, places, rfl, hspells⟩
  · rintro ⟨negative, u, n, places, rfl, hspells⟩
    cases negative with
    | false => exact .number hspells.unsigned
    | true => exact .negative hspells.unsigned

/-- **Numbers of the language can be read.** -/
theorem exists_read? {s : Text} (h : PieceKind.number.Fits s) : ∃ x, read? s = some x := by
  obtain ⟨negative, u, n, places, rfl, hspells⟩ := fits_number_iff.1 h
  exact ⟨_, read?_of_spells hspells negative⟩

end Number
end GymLang
