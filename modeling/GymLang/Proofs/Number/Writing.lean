import GymLang.Number.Writing
import GymLang.Proofs.Number.Bits
import GymLang.Proofs.Number.Digits
import GymLang.Proofs.Number.Rounding

/-!
# Numbers are read as they were written

The decimal that a number is written with is rounded to that number: by the search for it, and by
the digits of all its steps where the search finds none.  Its text spells out that decimal.

* `toMagnitude_shortest` — **the decimal is rounded to the magnitude**.
* `spells_text` — the text of a decimal spells out its value.
* `read?_write` — **a finite number is read as it was written**, with its sign, be it zero.
-/

namespace GymLang
namespace Number

open Text (Digits isDigit)

variable {k m n places : Nat} {e : Int} {d : Decimal} {ds : Text} {x : Float}

/-! ## The decimal of a magnitude -/

/-- What is found on a grid is rounded to the magnitude, and is one of the two next to it. -/
theorem of_onGrid? (h : onGrid? m e = some d) : d.toMagnitude = m ∧ d.exponent = e ∧
    d.digits ≤ (inUnits m e).1 / (inUnits m e).2 + 1 := by
  unfold onGrid? at h
  dsimp only at h
  split at h
  · rename_i hlower
    split at h
    · rename_i hupper
      exact Option.some.inj h ▸ ⟨hupper.1, rfl, Nat.le_refl _⟩
    · exact Option.some.inj h ▸ ⟨hlower, rfl, Nat.le_succ _⟩
  · split at h
    · rename_i hupper
      exact Option.some.inj h ▸ ⟨hupper, rfl, Nat.le_refl _⟩
    · cases h

/-- A half is five tenths, and so for powers of it. -/
theorem toMagnitude_mul_five_pow (n k : Nat) :
    Decimal.toMagnitude ⟨n * Nat.pow 5 k, -k⟩ = nearest n (2 ^ k) := by
  have hten : 10 ^ k = 2 ^ k * Nat.pow 5 k := Nat.mul_pow 2 5 k
  rw [toMagnitude_neg, hten]
  exact nearest_mul_right n (2 ^ k) (Nat.pow_pos (by decide))

/-- All digits of a magnitude are exact. -/
theorem toMagnitude_exactDecimal (hm : m < infinity) : (exactDecimal m).toMagnitude = m := by
  have hexponent : (-1074 : Int) = -(1074 : Nat) := rfl
  have hsteps := nearest_steps hm
  rw [exactDecimal, hexponent]
  -- the powers are too large to be computed
  generalize (1074 : Nat) = k at hsteps ⊢
  rw [toMagnitude_mul_five_pow, hsteps]

/-- **The decimal of a magnitude** is rounded to that. -/
theorem toMagnitude_shortest (hm : m < infinity) : (shortest m).toMagnitude = m := by
  have hfound : ∀ o : Option Decimal, (∀ d ∈ o, d.toMagnitude = m) →
      (o.getD (exactDecimal m)).toMagnitude = m := by
    rintro (_ | d) h
    · exact toMagnitude_exactDecimal hm
    · exact h d rfl
  rw [shortest, toMagnitude_trimmed]
  refine hfound _ fun d hd => ?_
  obtain ⟨i, -, hi⟩ := List.exists_of_findSome?_eq_some hd
  exact (of_onGrid? hi).1

/-! ## The text of a decimal -/

theorem digits_toDigits (n : Nat) : Digits (Nat.toDigits 10 n) :=
  ⟨Nat.toDigits_ne_nil, fun _ hc => isDigit_of_mem_toDigits hc⟩

theorem digits_append {es : Text} (hds : ds.Digits) (hes : ∀ c ∈ es, isDigit c = true) :
    Digits (ds ++ es) :=
  ⟨List.append_ne_nil_of_left_ne_nil hds.1 es, List.forall_mem_append.2 ⟨hds.2, hes⟩⟩

/-- A point is set before the last digits, of which there are enough with zeros in front. -/
theorem spells_withPoint (hds : ds.Digits) (hplaces : 0 < places) :
    Spells (Decimal.withPoint ds places) (natOfDigits ds) places := by
  unfold Decimal.withPoint
  split
  · rename_i hinside
    have hwhole : Digits (ds.take (ds.length - places)) := by
      refine ⟨?_, fun c hc => hds.2 c (List.mem_of_mem_take hc)⟩
      rw [← List.length_pos_iff, List.length_take]
      omega
    have hfraction : Digits (ds.drop (ds.length - places)) := by
      refine ⟨?_, fun c hc => hds.2 c (List.mem_of_mem_drop hc)⟩
      rw [← List.length_pos_iff, List.length_drop]
      omega
    have hspells := Spells.decimal hwhole hfraction
    rwa [List.take_append_drop, List.length_drop, Nat.sub_sub_self (Nat.le_of_lt hinside)]
      at hspells
  · rename_i hshort
    have hfraction : Digits (List.replicate (places - ds.length) '0' ++ ds) := by
      refine ⟨List.append_ne_nil_of_right_ne_nil _ hds.1, ?_⟩
      exact List.forall_mem_append.2 ⟨fun c hc => isDigit_of_mem_zeros hc, hds.2⟩
    have hwhole : Digits ['0'] := digits_toDigits 0
    have hspells := Spells.decimal hwhole hfraction
    have hlength : (List.replicate (places - ds.length) '0' ++ ds).length = places := by
      rw [List.length_append, List.length_replicate]
      omega
    have hvalue : natOfDigits (['0'] ++ (List.replicate (places - ds.length) '0' ++ ds)) =
        natOfDigits ds := by
      show natOfDigits (List.replicate 1 '0' ++ _) = _
      rw [natOfDigits_zeros_append, natOfDigits_zeros_append]
    rwa [hlength, hvalue] at hspells

/-- **The text of a decimal** spells out its value. -/
theorem spells_text (d : Decimal) : ∃ n places, Spells d.text n places ∧
    Decimal.toMagnitude ⟨n, -places⟩ = d.toMagnitude := by
  obtain ⟨n, e⟩ := d
  have hdigits := digits_toDigits n
  cases e with
  | ofNat k =>
    have hwhole := digits_append hdigits fun c hc => isDigit_of_mem_zeros (k := k) hc
    have hspells := Spells.whole hwhole
    rw [natOfDigits_append_zeros, natOfDigits_toDigits] at hspells
    refine ⟨n * 10 ^ k, 0, hspells, ?_⟩
    rw [toMagnitude_mul_ten_pow]
    congr 2
    show -(0 : Int) + k = k
    omega
  | negSucc k =>
    have hspells := spells_withPoint hdigits (Nat.succ_pos k)
    rw [natOfDigits_toDigits] at hspells
    exact ⟨n, k + 1, hspells, rfl⟩

/-! ## Reading what was written -/

/-- The text of a finite magnitude spells it out. -/
theorem spells_magnitudeText (hm : m < infinity) : ∃ n places,
    Spells (magnitudeText m) n places ∧ Decimal.toMagnitude ⟨n, -places⟩ = m := by
  unfold magnitudeText
  rw [if_neg (Nat.ne_of_lt hm)]
  split
  · rename_i hzero
    refine ⟨0, 0, .whole (digits_toDigits 0), ?_⟩
    rw [hzero]
    rfl
  · obtain ⟨n, places, hspells, hmagnitude⟩ := spells_text (shortest m)
    exact ⟨n, places, hspells, hmagnitude.trans (toMagnitude_shortest hm)⟩

theorem write_eq (h : magnitude x < infinity) :
    write x = withSign (isNegative x) (magnitudeText (magnitude x)) := by
  rw [write, if_neg (Nat.not_lt_of_gt h), withSign]

/-- What is written of a finite number is a number of the language. -/
theorem fits_write (h : magnitude x < infinity) : PieceKind.number.Fits (write x) := by
  obtain ⟨n, places, hspells, -⟩ := spells_magnitudeText h
  exact fits_number_iff.2 ⟨_, _, n, places, write_eq h, hspells⟩

/-- **A finite number is read as it was written.** -/
theorem read?_write (h : magnitude x < infinity) : read? (write x) = some x := by
  obtain ⟨n, places, hspells, hmagnitude⟩ := spells_magnitudeText h
  rw [write_eq h, read?_of_spells hspells, hmagnitude, ofMagnitude_self]

end Number
end GymLang
