import GymLang.Number.Whole
import GymLang.Proofs.Number.Overflow

/-!
# Numbers that are rounded to themselves

Rounding is a function of the quotient alone, and a quotient that is a finite magnitude already is
rounded to just that.

* `nearest_congr` — equal quotients are rounded alike.
* `nearest_steps` — **a finite magnitude is rounded to itself**.
* `toMagnitude_mul_ten`, `toMagnitude_trimmed` — so zeros at the end of the digits do not matter.
* `steps_nearest` — **a whole number below 2 ^ 53** is not rounded at all.
-/

namespace GymLang
namespace Number

variable {a b c d k m n q s : Nat} {e : Int}

/-! ## Equal quotients -/

theorem roundDiv_mul_right (a b : Nat) (hk : 0 < k) : roundDiv (a * k) (b * k) = roundDiv a b := by
  have hdiv : a * k / (b * k) = a / b := Nat.mul_div_mul_right a b hk
  have hmod : a * k % (b * k) = a % b * k := Nat.mul_mod_mul_right k a b
  have hleft : 2 * (a % b * k) < b * k ↔ 2 * (a % b) < b := by
    rw [← Nat.mul_assoc, Nat.mul_lt_mul_right hk]
  have hright : b * k < 2 * (a % b * k) ↔ b < 2 * (a % b) := by
    rw [← Nat.mul_assoc, Nat.mul_lt_mul_right hk]
  simp only [roundDiv, hdiv, hmod, hleft, hright]

theorem roundDiv_mul_self (q : Nat) (hb : 0 < b) : roundDiv (q * b) b = q := by
  have hdiv : q * b / b = q := Nat.mul_div_cancel q hb
  have hmod : 2 * (q * b % b) < b := by rwa [Nat.mul_mod_left]
  rw [roundDiv, if_pos hmod, hdiv]

theorem nearest_mul_right (a b : Nat) (hk : 0 < k) : nearest (a * k) (b * k) = nearest a b := by
  have hscale : scale (a * k) (b * k) = scale a b := by
    rw [scale, scale, Nat.mul_right_comm, Nat.mul_div_mul_right _ _ hk]
  rw [nearest_eq, nearest_eq, hscale, Nat.mul_right_comm, Nat.mul_right_comm b,
    roundDiv_mul_right _ _ hk]

/-- **Equal quotients** are rounded alike. -/
theorem nearest_congr (hb : 0 < b) (hd : 0 < d) (h : a * d = c * b) : nearest a b = nearest c d :=
  calc nearest a b
      = nearest (a * d) (b * d) := (nearest_mul_right a b hd).symm
    _ = nearest (c * b) (d * b) := by rw [h, Nat.mul_comm b d]
    _ = nearest c d := nearest_mul_right c d hb

/-! ## Finite magnitudes -/

/-- Any magnitude has a scale and up to 53 bits, of which the first is set but at the lowest
scale. -/
theorem exists_scale (m : Nat) :
    ∃ s q, m = s * 2 ^ 52 + q ∧ q < 2 ^ 53 ∧ (s = 0 ∨ 2 ^ 52 ≤ q) := by
  by_cases hm : m < 2 ^ 53
  · exact ⟨0, m, by omega, hm, .inl rfl⟩
  · exact ⟨m / 2 ^ 52 - 1, m % 2 ^ 52 + 2 ^ 52, by omega, by omega, .inr (by omega)⟩

theorem steps_scale (hq : q < 2 ^ 53) (hs : s = 0 ∨ 2 ^ 52 ≤ q) :
    steps (s * 2 ^ 52 + q) = q * 2 ^ s := by
  unfold steps
  simp only [shiftLeft_eq, Nat.shiftRight_eq_div_pow, Nat.one_mul]
  rcases Nat.eq_zero_or_pos s with rfl | hpos
  · rw [Nat.zero_mul, Nat.zero_add, if_pos hq, Nat.pow_zero, Nat.mul_one]
  · have hlarge : 2 ^ 52 ≤ q := by omega
    have hnot : ¬ s * 2 ^ 52 + q < 2 ^ 53 := by omega
    have hmod : (s * 2 ^ 52 + q) % 2 ^ 52 + 2 ^ 52 = q := by omega
    have hdiv : (s * 2 ^ 52 + q) / 2 ^ 52 - 1 = s := by omega
    rw [if_neg hnot, hmod, hdiv]

/-- The scale at which a magnitude is rounded is its own. -/
theorem scale_steps (hq : q < 2 ^ 53) (hs : s = 0 ∨ 2 ^ 52 ≤ q) :
    scale (q * 2 ^ s) (2 ^ 1074) = s := by
  rw [scale, Nat.mul_div_cancel _ (Nat.two_pow_pos 1074)]
  rcases Nat.eq_zero_or_pos s with rfl | hpos
  · rw [Nat.pow_zero, Nat.mul_one]
    rcases Nat.eq_zero_or_pos q with rfl | hq0
    · rfl
    · have hlog := (Nat.log2_lt (Nat.ne_of_gt hq0)).2 hq
      omega
  · have hlarge : 2 ^ 52 ≤ q := by omega
    have hlower : 2 ^ (52 + s) ≤ q * 2 ^ s := by
      rw [Nat.pow_add]
      exact Nat.mul_le_mul_right _ hlarge
    have hupper : q * 2 ^ s < 2 ^ (52 + s + 1) := by
      rw [Nat.add_right_comm, Nat.pow_add]
      exact Nat.mul_lt_mul_of_pos_right hq (Nat.two_pow_pos s)
    have hne : q * 2 ^ s ≠ 0 := Nat.ne_of_gt (Nat.lt_of_lt_of_le (Nat.two_pow_pos _) hlower)
    have hlog : (q * 2 ^ s).log2 = 52 + s := (Nat.log2_eq_iff hne).2 ⟨hlower, hupper⟩
    rw [hlog, Nat.add_sub_cancel_left]

theorem roundDiv_two_pow (q i j : Nat) : roundDiv (q * 2 ^ i * 2 ^ j) (2 ^ j * 2 ^ i) = q := by
  rw [Nat.mul_assoc, Nat.mul_comm (2 ^ i)]
  exact roundDiv_mul_self q (Nat.mul_pos (Nat.two_pow_pos j) (Nat.two_pow_pos i))

/-- **A finite magnitude is rounded to itself.** -/
theorem nearest_steps (hm : m < infinity) : nearest (steps m) (2 ^ 1074) = m := by
  obtain ⟨s, q, rfl, hq, hs⟩ := exists_scale m
  rw [steps_scale hq hs, nearest_eq, scale_steps hq hs, roundDiv_two_pow]
  exact Nat.min_eq_right (Nat.le_of_lt hm)

/-! ## Decimals -/

/-- A zero at the end of the digits is one in the exponent. -/
theorem toMagnitude_mul_ten (n : Nat) (e : Int) :
    Decimal.toMagnitude ⟨n * 10, e⟩ = Decimal.toMagnitude ⟨n, e + 1⟩ := by
  rw [toMagnitude_eq, toMagnitude_eq]
  have hexponents : 1 + e.toNat + (-(e + 1)).toNat = (e + 1).toNat + (-e).toNat := by omega
  refine nearest_congr (Nat.pow_pos (by decide)) (Nat.pow_pos (by decide)) ?_
  calc n * 10 * 10 ^ e.toNat * 10 ^ (-(e + 1)).toNat
      = n * 10 ^ (1 + e.toNat + (-(e + 1)).toNat) := by ring
    _ = n * 10 ^ ((e + 1).toNat + (-e).toNat) := by rw [hexponents]
    _ = n * 10 ^ (e + 1).toNat * 10 ^ (-e).toNat := by ring

theorem toMagnitude_mul_ten_pow (n k : Nat) (e : Int) :
    Decimal.toMagnitude ⟨n * 10 ^ k, e⟩ = Decimal.toMagnitude ⟨n, e + k⟩ := by
  induction k generalizing n with
  | zero => rw [Nat.pow_zero, Nat.mul_one, Int.natCast_zero, Int.add_zero]
  | succ k ih =>
    rw [Nat.pow_succ', ← Nat.mul_assoc, ih, toMagnitude_mul_ten]
    congr 2
    omega

/-- **Zeros at the end** of the digits may be dropped. -/
theorem toMagnitude_trimmed (d : Decimal) :
    (Decimal.trimmed d.digits d.exponent).toMagnitude = d.toMagnitude := by
  obtain ⟨n, e⟩ := d
  show (Decimal.trimmed n e).toMagnitude = Decimal.toMagnitude ⟨n, e⟩
  fun_induction Decimal.trimmed n e with
  | case1 n e h ih =>
    rw [ih, ← toMagnitude_mul_ten, Nat.div_mul_cancel (Nat.dvd_of_mod_eq_zero h.2)]
  | case2 n e h => rfl

/-! ## Whole numbers -/

/-- A whole number of up to 53 bits is moved up until the first of them is set. -/
theorem exists_steps (hn : n < 2 ^ 53) : ∃ m < infinity, steps m = n * 2 ^ 1074 := by
  rcases Nat.eq_zero_or_pos n with rfl | hpos
  · exact ⟨0, by decide, (Nat.zero_mul _).symm⟩
  · have hlog : n.log2 < 53 := (Nat.log2_lt (Nat.ne_of_gt hpos)).2 hn
    have hlower : 2 ^ n.log2 * 2 ^ (52 - n.log2) ≤ n * 2 ^ (52 - n.log2) :=
      Nat.mul_le_mul_right _ (Nat.log2_self_le (Nat.ne_of_gt hpos))
    have hupper : n * 2 ^ (52 - n.log2) < 2 ^ (n.log2 + 1) * 2 ^ (52 - n.log2) :=
      Nat.mul_lt_mul_of_pos_right Nat.lt_log2_self (Nat.two_pow_pos _)
    rw [← Nat.pow_add, Nat.add_sub_of_le (by omega)] at hlower
    rw [← Nat.pow_add, Nat.add_right_comm, Nat.add_sub_of_le (by omega)] at hupper
    refine ⟨(1022 + n.log2) * 2 ^ 52 + n * 2 ^ (52 - n.log2), ?_, ?_⟩
    · rw [infinity_eq]
      omega
    · rw [steps_scale hupper (.inr hlower), Nat.mul_assoc,
        two_pow_split (i := 52 - n.log2) (j := 1022 + n.log2) (k := 1074) (by omega)]

/-- A magnitude that is a whole number is what that is rounded to. -/
theorem nearest_of_steps (hm : m < infinity) (hsteps : steps m = n * 2 ^ 1074) :
    nearest n 1 = m := by
  have hsame : nearest n 1 = nearest (steps m) (2 ^ 1074) := by
    refine nearest_congr Nat.one_pos (pow_pos two_pos _) ?_
    rw [hsteps, Nat.mul_one]
  rw [hsame, nearest_steps hm]

/-- **A whole number below 2 ^ 53** is not rounded at all. -/
theorem steps_nearest (hn : n < 2 ^ 53) : steps (nearest n 1) = n * 2 ^ 1074 := by
  obtain ⟨m, hm, hsteps⟩ := exists_steps hn
  rw [nearest_of_steps hm hsteps, hsteps]

/-- So there are different magnitudes for different ones. -/
theorem eq_of_nearest_eq (hn : n < 2 ^ 53) (hk : k < 2 ^ 53) (h : nearest n 1 = nearest k 1) :
    n = k := by
  have hsteps : n * 2 ^ 1074 = k * 2 ^ 1074 := by
    rw [← steps_nearest hn, ← steps_nearest hk, h]
  exact Nat.eq_of_mul_eq_mul_right (pow_pos two_pos _) hsteps

end Number
end GymLang
