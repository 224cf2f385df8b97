import GymLang.Number.Whole
import GymLang.Proofs.Number.Writing

/-!
# Whole numbers are written with their digits

A whole number below 10 ^ 15 has no more than fifteen digits, and other whole numbers of so many
digits are not rounded to its magnitude.  So the search for the decimal of the magnitude ends with
the number itself, at the last of its digits if not before.

* `eq_of_onGrid?` — on a grid of units, tens and so on up to its leading digit there is nothing
  but the number.
* `magnitudeText_of_whole`, `write_of_whole` — **a whole number below 10 ^ 15 is written with its
  digits**, and a minus sign if it has one.
-/

namespace GymLang
namespace Number

variable {j k m n u : Nat} {d : Decimal} {x : Float}

/-! ## Steps of whole numbers -/

theorem steps_of_isWholeMagnitude (h : isWholeMagnitude m = true) :
    m < infinity ∧ steps m = units m * 2 ^ 1074 := by
  unfold isWholeMagnitude at h
  unfold units
  -- the power is too large to be computed
  generalize (1074 : Nat) = i at h ⊢
  simp only [Bool.and_eq_true, decide_eq_true_eq, beq_iff_eq, shiftLeft_eq, Nat.one_mul] at h
  refine ⟨h.1, ?_⟩
  rw [Nat.shiftRight_eq_div_pow, Nat.div_mul_cancel (Nat.dvd_of_mod_eq_zero h.2)]

theorem eq_zero_of_steps (h : steps m = 0) : m = 0 := by
  obtain ⟨s, q, rfl, hq, hs⟩ := exists_scale m
  rw [steps_scale hq hs] at h
  have hpos := Nat.two_pow_pos s
  have hzero : q = 0 := (Nat.mul_eq_zero.1 h).resolve_right (Nat.ne_of_gt hpos)
  omega

/-! ## The search among whole numbers -/

theorem length_toDigits_shifted (hu : 0 < u) (i k : Nat) :
    (Nat.toDigits 10 ((u * 2 ^ i * Nat.pow 10 k) >>> i)).length =
      (Nat.toDigits 10 u).length + k := by
  have hshift : (u * 2 ^ i * Nat.pow 10 k) >>> i = u * 10 ^ k := by
    rw [Nat.shiftRight_eq_div_pow, Nat.mul_right_comm, Nat.mul_div_cancel _ (Nat.two_pow_pos i)]
    rfl
  rw [hshift, toDigits_mul_ten_pow hu, List.length_append, List.length_replicate]

/-- The leading digit of a whole number is in the place of how many digits it has. -/
theorem leadingPlace_of_steps (hu : 0 < u) (hsteps : steps m = u * 2 ^ 1074) :
    leadingPlace m = (Nat.toDigits 10 u).length := by
  have hplace : (400 : Int) = (400 : Nat) := rfl
  rw [leadingPlace, hsteps, hplace]
  generalize (400 : Nat) = k
  rw [length_toDigits_shifted hu]
  omega

theorem inUnits_div (hsteps : steps m = u * 2 ^ 1074) (k : Nat) :
    (inUnits m k).1 / (inUnits m k).2 = u / 10 ^ k := by
  show steps m / (10 ^ k <<< 1074) = u / 10 ^ k
  rw [hsteps, shiftLeft_eq, Nat.mul_div_mul_right _ _ (Nat.two_pow_pos 1074)]

/-- **On a grid of units, tens and so on** there is nothing but the number. -/
theorem eq_of_onGrid? (hm : m < infinity) (hsteps : steps m = u * 2 ^ 1074) (hu : u < 2 ^ 52)
    (hk : 10 ^ k ≤ u) (h : onGrid? m k = some d) :
    d.exponent = k ∧ d.digits * 10 ^ k = u := by
  obtain ⟨n, e⟩ := d
  obtain ⟨hmagnitude, hexponent, hdigits⟩ := of_onGrid? h
  dsimp only at hexponent hdigits ⊢
  subst hexponent
  rw [inUnits_div hsteps] at hdigits
  have hround : nearest (n * 10 ^ k) 1 = m := by rwa [toMagnitude_natCast] at hmagnitude
  have hsmall : n * 10 ^ k < 2 ^ 53 := by
    have hbelow := Nat.div_mul_le_self u (10 ^ k)
    have hupper := Nat.mul_le_mul_right (10 ^ k) hdigits
    rw [Nat.add_mul, Nat.one_mul] at hupper
    omega
  exact ⟨rfl, eq_of_nearest_eq hsmall (by omega) (hround.trans (nearest_of_steps hm hsteps).symm)⟩

/-- On the grid of units there is the number. -/
theorem exists_onGrid?_zero (hm : m < infinity) (hsteps : steps m = u * 2 ^ 1074) :
    ∃ d, onGrid? m (0 : Nat) = some d := by
  have hlower : Decimal.toMagnitude ⟨u, (0 : Nat)⟩ = m := by
    rw [toMagnitude_natCast, Nat.pow_zero, Nat.mul_one, nearest_of_steps hm hsteps]
  have hunits : (inUnits m (0 : Nat)).1 / (inUnits m (0 : Nat)).2 = u := by
    rw [inUnits_div hsteps, Nat.pow_zero, Nat.div_one]
  unfold onGrid?
  dsimp only
  rw [hunits, if_pos hlower]
  split
  · exact ⟨_, rfl⟩
  · exact ⟨_, rfl⟩

/-- The decimal of a whole number is written with the digits of the number. -/
theorem text_trimmed (hn : 0 < n) (k : Nat) :
    (Decimal.trimmed n k).text = Nat.toDigits 10 (n * 10 ^ k) := by
  generalize he : (k : Int) = e
  fun_induction Decimal.trimmed n e generalizing k with
  | case1 n e h ih =>
    have hdiv : n / 10 * 10 = n := Nat.div_mul_cancel (Nat.dvd_of_mod_eq_zero h.2)
    have hnext : ((k + 1 : Nat) : Int) = e + 1 := by rw [← he, Int.natCast_succ]
    rw [ih (by omega) (k + 1) hnext, Nat.pow_succ', ← Nat.mul_assoc, hdiv]
  | case2 n e h =>
    subst he
    exact (toDigits_mul_ten_pow hn k).symm

/-- A search ends no later than where something is to be found. -/
theorem findSome?_range {f : Nat → Option Decimal} (hj : j < n) (h : ∃ d, f j = some d) :
    ∃ i ≤ j, ∃ d, f i = some d ∧ (List.range n).findSome? f = some d := by
  have hfound : ((List.range (j + 1)).findSome? f).isSome := by
    obtain ⟨d, hd⟩ := h
    rw [List.findSome?_isSome_iff]
    exact ⟨j, List.mem_range.2 (Nat.lt_succ_self j), by rw [hd, Option.isSome_some]⟩
  obtain ⟨d, hd⟩ := Option.isSome_iff_exists.1 hfound
  obtain ⟨i, hi, hfi⟩ := List.exists_of_findSome?_eq_some hd
  obtain ⟨r, rfl⟩ := Nat.exists_eq_add_of_le hj
  refine ⟨i, Nat.le_of_lt_succ (List.mem_range.1 hi), d, hfi, ?_⟩
  rw [Nat.succ_eq_add_one, List.range_add, List.findSome?_append, hd, Option.some_or]

theorem ten_pow_le (hu : 0 < u) (h : k < (Nat.toDigits 10 u).length) : 10 ^ k ≤ u := by
  rcases Nat.eq_zero_or_pos k with rfl | hk
  · exact hu
  · have hlength := Nat.length_toDigits_le_iff (n := u) (b := 10) (by decide) hk
    exact Nat.le_of_not_lt fun hlt => Nat.not_le_of_gt h (hlength.2 hlt)

/-- **The search for the decimal** of a whole number ends with the number. -/
theorem text_of_findSome? (hm : m < infinity) (hsteps : steps m = u * 2 ^ 1074) (hpos : 0 < u)
    (hu : u < 10 ^ 15) : ∃ d, ((List.range 17).findSome? fun (i : Nat) =>
      onGrid? m (leadingPlace m - (i + 1))) = some d ∧
      (Decimal.trimmed d.digits d.exponent).text = Nat.toDigits 10 u := by
  have hlength : (Nat.toDigits 10 u).length ≤ 15 :=
    (Nat.length_toDigits_le_iff (by decide) (by decide)).2 hu
  obtain ⟨j, hj⟩ : ∃ j, (Nat.toDigits 10 u).length = j + 1 :=
    Nat.exists_eq_add_one_of_ne_zero (Nat.ne_of_gt Nat.length_toDigits_pos)
  have hplace : ∀ i ≤ j, leadingPlace m - (i + 1) = (j - i : Nat) := by
    intro i hi
    rw [leadingPlace_of_steps hpos hsteps, hj]
    omega
  -- on the grid of the last digit there is the number
  have hlast : ∃ d, onGrid? m (leadingPlace m - (j + 1)) = some d := by
    rw [hplace j (Nat.le_refl j), Nat.sub_self]
    exact exists_onGrid?_zero hm hsteps
  have hrange : j < 17 := by omega
  obtain ⟨i, hi, d, hgrid, hd⟩ :=
    findSome?_range (f := fun i => onGrid? m (leadingPlace m - (i + 1))) hrange hlast
  refine ⟨d, hd, ?_⟩
  rw [hplace i hi] at hgrid
  have hten : 10 ^ (j - i) ≤ u := ten_pow_le hpos (by omega)
  obtain ⟨hexponent, hdigits⟩ := eq_of_onGrid? hm hsteps (by omega) hten hgrid
  have hdpos : 0 < d.digits := by
    refine Nat.pos_of_ne_zero fun hzero => ?_
    rw [hzero, Nat.zero_mul] at hdigits
    omega
  rw [hexponent, text_trimmed hdpos, hdigits]

/-- **A whole number below 10 ^ 15** is written with its digits. -/
theorem magnitudeText_of_whole (hm : m < infinity) (hsteps : steps m = u * 2 ^ 1074)
    (hu : u < 10 ^ 15) : magnitudeText m = Nat.toDigits 10 u := by
  rw [magnitudeText, if_neg (Nat.ne_of_lt hm)]
  rcases Nat.eq_zero_or_pos u with rfl | hpos
  · rw [Nat.zero_mul] at hsteps
    rw [if_pos (eq_zero_of_steps hsteps)]
    rfl
  · have hne : m ≠ 0 := by
      rintro rfl
      have hzero : u * 2 ^ 1074 = 0 := hsteps.symm
      exact absurd hzero (Nat.ne_of_gt (Nat.mul_pos hpos (pow_pos two_pos _)))
    obtain ⟨d, hd, htext⟩ := text_of_findSome? hm hsteps hpos hu
    rw [if_neg hne, shortest, hd]
    exact htext

theorem write_of_whole (h : isWhole x = true) (hx : units (magnitude x) < 10 ^ 15) :
    write x = withSign (isNegative x) (Nat.toDigits 10 (units (magnitude x))) := by
  obtain ⟨hm, hsteps⟩ := steps_of_isWholeMagnitude h
  rw [write_eq hm, magnitudeText_of_whole hm hsteps hx]

end Number
end GymLang
