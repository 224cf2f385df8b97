import Mathlib.Tactic.Ring
import GymLang.Proofs.Number.Reading

/-!
# Numbers that are too large

Rounding to binary64 gives infinity for what is at least half way between the largest finite
number, `(2 ^ 53 - 1) * 2 ^ 971`, and the power of two after it.  The half way is infinite
itself, since of its two neighbours that one is even.

* `succ_le_roundDiv_iff` — when a quotient is rounded up to an even number, or past it.
* `nearest_eq_infinity_iff` — **what rounds to infinity**, of all quotients.
* `toMagnitude_eq` — a decimal is rounded like the quotient that it is, however far its exponent.
* `toMagnitude_eq_infinity_iff` — what rounds to infinity, of the decimals that numbers spell out.
-/

namespace GymLang
namespace Number

/-- Half way between the largest finite number and the power of two after it. -/
def overflow : Nat := (2 ^ 54 - 1) * 2 ^ 970

variable {a b k n x y : Nat}

/-! The powers of two below are too large to be computed, so that these two are stated for any
exponents and used with those. -/

theorem two_pow_split {i j k : Nat} (h : k = i + j) : 2 ^ k = 2 ^ i * 2 ^ j := by
  rw [h, Nat.pow_add]

theorem shiftLeft_eq (n k : Nat) : n <<< k = n * 2 ^ k := Nat.shiftLeft_eq n k

/-! ## Quotients as whole numbers -/

theorem le_roundDiv (x y : Nat) : x / y ≤ roundDiv x y := by
  unfold roundDiv
  split
  · exact Nat.le_refl _
  · split
    · exact Nat.le_succ _
    · exact Nat.le_add_right _ _

theorem roundDiv_le (x y : Nat) : roundDiv x y ≤ x / y + 1 := by
  unfold roundDiv
  split
  · exact Nat.le_succ _
  · split
    · exact Nat.le_refl _
    · exact Nat.add_le_add_left (Nat.le_of_lt_succ (Nat.mod_lt _ Nat.two_pos)) _

/-- **A quotient is rounded up to an even number**, or past it, if it is at least half way
from the number before. -/
theorem succ_le_roundDiv_iff (hn : n % 2 = 1) (hy : 0 < y) :
    n + 1 ≤ roundDiv x y ↔ (2 * n + 1) * y ≤ 2 * x := by
  have hhalf : (2 * n + 1) * y = 2 * (y * n) + y := by ring
  have hx := Nat.div_add_mod x y
  have hmod := Nat.mod_lt x hy
  rcases Nat.lt_trichotomy (x / y) n with hlt | heq | hgt
  · have hbelow : y * (x / y) + y ≤ y * n := by
      rw [← Nat.mul_succ]
      exact Nat.mul_le_mul_left y hlt
    have hround := roundDiv_le x y
    omega
  · -- the remainder decides, and half of the divisor is enough of it
    rw [heq] at hx
    unfold roundDiv
    rw [heq, hn]
    split
    · omega
    · split
      · omega
      · omega
  · have habove : y * n + y ≤ y * (x / y) := by
      rw [← Nat.mul_succ]
      exact Nat.mul_le_mul_left y hgt
    have hround := le_roundDiv x y
    omega

/-! ## Quotients as magnitudes -/

/-- The scale at which a quotient is rounded, so that 53 bits of it are kept. -/
def scale (a b : Nat) : Nat := (a * 2 ^ 1074 / b).log2 - 52

theorem nearest_eq (a b : Nat) : nearest a b =
    min infinity (scale a b * 2 ^ 52 + roundDiv (a * 2 ^ 1074) (b * 2 ^ scale a b)) := by
  simp only [nearest, scale, shiftLeft_eq]

theorem infinity_eq : infinity = 2047 * 2 ^ 52 := rfl

/-- No more than 53 bits are kept. -/
theorem lt_scale (a b : Nat) : a * 2 ^ 1074 / b < 2 ^ (scale a b + 53) := by
  have hlog : (a * 2 ^ 1074 / b).log2 + 1 ≤ scale a b + 53 := by
    unfold scale
    omega
  exact Nat.lt_of_lt_of_le Nat.lt_log2_self (Nat.pow_le_pow_right Nat.two_pos hlog)

/-- No fewer are kept, at any scale but the lowest. -/
theorem le_scale (h : 0 < scale a b) : 2 ^ (scale a b + 52) ≤ a * 2 ^ 1074 / b := by
  have hlog : (a * 2 ^ 1074 / b).log2 = scale a b + 52 := by
    unfold scale at h ⊢
    omega
  have hne : a * 2 ^ 1074 / b ≠ 0 := by
    intro hzero
    rw [hzero, Nat.log2_zero] at hlog
    omega
  rw [← hlog]
  exact Nat.log2_self_le hne

theorem roundDiv_scale_le (a b : Nat) :
    roundDiv (a * 2 ^ 1074) (b * 2 ^ scale a b) ≤ 2 ^ 53 := by
  have hlt : a * 2 ^ 1074 / b < 2 ^ scale a b * 2 ^ 53 := by
    rw [← Nat.pow_add]
    exact lt_scale a b
  have hdiv : a * 2 ^ 1074 / (b * 2 ^ scale a b) < 2 ^ 53 := by
    rw [← Nat.div_div_eq_div_mul]
    exact Nat.div_lt_of_lt_mul hlt
  exact Nat.le_trans (roundDiv_le _ _) hdiv

theorem le_roundDiv_scale (h : 0 < scale a b) :
    2 ^ 52 ≤ roundDiv (a * 2 ^ 1074) (b * 2 ^ scale a b) := by
  have hle : 2 ^ 52 * 2 ^ scale a b ≤ a * 2 ^ 1074 / b := by
    rw [← Nat.pow_add, Nat.add_comm]
    exact le_scale h
  refine Nat.le_trans ?_ (le_roundDiv _ _)
  rw [← Nat.div_div_eq_div_mul]
  exact (Nat.le_div_iff_mul_le (Nat.two_pow_pos _)).2 hle

/-! ## What is infinite -/

/-- Half way, in steps of the smallest number. -/
theorem overflow_eq (b : Nat) : (2 ^ 54 - 1) * 2 ^ 2044 * b = overflow * b * 2 ^ 1074 := by
  rw [overflow, two_pow_split (i := 970) (j := 1074) (k := 2044) rfl, ← Nat.mul_assoc,
    Nat.mul_right_comm]

theorem overflow_mul_le_iff (hb : 0 < b) :
    overflow * b ≤ a ↔ (2 ^ 54 - 1) * 2 ^ 2044 ≤ a * 2 ^ 1074 / b := by
  rw [Nat.le_div_iff_mul_le hb, overflow_eq, Nat.mul_le_mul_right_iff (Nat.two_pow_pos 1074)]

/-- Below the last scale but one nothing is half way. -/
theorem lt_of_scale_lt (h : scale a b < 2045) : a * 2 ^ 1074 / b < (2 ^ 54 - 1) * 2 ^ 2044 :=
  calc a * 2 ^ 1074 / b
      < 2 ^ (scale a b + 53) := lt_scale a b
    _ ≤ 2 ^ (53 + 2044) := pow_le_pow_right₀ one_le_two (by omega)
    _ = 2 ^ 53 * 2 ^ 2044 := two_pow_split rfl
    _ ≤ (2 ^ 54 - 1) * 2 ^ 2044 := Nat.mul_le_mul_right _ (by decide)

/-- Above it everything is. -/
theorem le_of_lt_scale (h : 2045 < scale a b) : (2 ^ 54 - 1) * 2 ^ 2044 ≤ a * 2 ^ 1074 / b :=
  calc (2 ^ 54 - 1) * 2 ^ 2044
      ≤ 2 ^ 54 * 2 ^ 2044 := Nat.mul_le_mul_right _ (by decide)
    _ = 2 ^ (54 + 2044) := (two_pow_split rfl).symm
    _ ≤ 2 ^ (scale a b + 52) := pow_le_pow_right₀ one_le_two (by omega)
    _ ≤ a * 2 ^ 1074 / b := le_scale (by omega)

/-- And there the rounding decides. -/
theorem succ_le_roundDiv_scale_iff (hb : 0 < b) (h : scale a b = 2045) :
    2 ^ 53 - 1 + 1 ≤ roundDiv (a * 2 ^ 1074) (b * 2 ^ scale a b) ↔ overflow * b ≤ a := by
  have hhalf : (2 * (2 ^ 53 - 1) + 1) * (b * 2 ^ 2045) = 2 * (overflow * b * 2 ^ 1074) := by
    have hpower : ∀ u, (2 * (2 ^ 53 - 1) + 1) * (b * (2 ^ 1 * u)) =
        2 * ((2 ^ 54 - 1) * u * b) := by
      intro u
      ring
    rw [← overflow_eq, two_pow_split (i := 1) (j := 2044) (k := 2045) rfl, hpower]
  have hpos : 0 < b * 2 ^ scale a b := Nat.mul_pos hb (Nat.two_pow_pos _)
  rw [succ_le_roundDiv_iff (by decide) hpos, h, hhalf, Nat.mul_le_mul_left_iff Nat.two_pos,
    Nat.mul_le_mul_right_iff (Nat.two_pow_pos 1074)]

/-- **What rounds to infinity**, of all quotients. -/
theorem nearest_eq_infinity_iff (hb : 0 < b) : nearest a b = infinity ↔ overflow * b ≤ a := by
  have hmost := roundDiv_scale_le a b
  rw [nearest_eq, min_eq_left_iff, infinity_eq]
  rcases Nat.lt_trichotomy (scale a b) 2045 with hlt | heq | hgt
  · have hbelow := Nat.not_le_of_gt (lt_of_scale_lt hlt)
    rw [overflow_mul_le_iff hb]
    refine iff_of_false ?_ hbelow
    omega
  · rw [← succ_le_roundDiv_scale_iff hb heq]
    omega
  · have hleast := le_roundDiv_scale (a := a) (b := b) (by omega)
    rw [overflow_mul_le_iff hb]
    refine iff_of_true ?_ (le_of_lt_scale hgt)
    omega

/-! ## Decimals as quotients -/

theorem two_pow_le_ten_pow {i k : Nat} (h : i ≤ 3 * k) : 2 ^ i ≤ 10 ^ k :=
  calc 2 ^ i
      ≤ 2 ^ (3 * k) := Nat.pow_le_pow_right Nat.two_pos h
    _ = 8 ^ k := Nat.pow_mul 2 3 k
    _ ≤ 10 ^ k := Nat.pow_le_pow_left (by decide) k

/-- What is less than half of the smallest step is rounded to zero. -/
theorem nearest_eq_zero (h : 2 * (a * 2 ^ 1074) < b) : nearest a b = 0 := by
  have hdiv : a * 2 ^ 1074 / b = 0 := Nat.div_eq_of_lt (by omega)
  have hmod : a * 2 ^ 1074 % b = a * 2 ^ 1074 := Nat.mod_eq_of_lt (by omega)
  have hscale : scale a b = 0 := by
    rw [scale, hdiv]
    rfl
  have hround : roundDiv (a * 2 ^ 1074) b = 0 := by
    rw [roundDiv, hmod, if_pos h, hdiv]
  rw [nearest_eq, hscale, Nat.pow_zero, Nat.mul_one, hround]
  rfl

/-- Decimals with a far exponent are larger than all finite numbers. -/
theorem overflow_le_ten_pow (h : 400 < k) (hn : n ≠ 0) : overflow * 1 ≤ n * 10 ^ k :=
  calc overflow * 1
      ≤ 2 ^ 54 * 2 ^ 970 := by
        rw [Nat.mul_one, overflow]
        exact Nat.mul_le_mul_right _ (by decide)
    _ = 2 ^ (54 + 970) := (two_pow_split rfl).symm
    _ ≤ 10 ^ k := two_pow_le_ten_pow (by omega)
    _ ≤ n * 10 ^ k := Nat.le_mul_of_pos_left _ (Nat.pos_of_ne_zero hn)

theorem two_mul_lt (n i : Nat) : 2 * (n * 2 ^ i) < 2 ^ (n.log2 + 1 + i + 1) := by
  rw [Nat.pow_succ', Nat.pow_add _ (n.log2 + 1)]
  exact Nat.mul_lt_mul_of_pos_left
    (Nat.mul_lt_mul_of_pos_right Nat.lt_log2_self (Nat.two_pow_pos i)) Nat.two_pos

/-- The other far exponents leave less than half of the smallest step. -/
theorem lt_ten_pow (h : n.log2 + 1076 < 3 * k) : 2 * (n * 2 ^ 1074) < 10 ^ k :=
  Nat.lt_of_lt_of_le (two_mul_lt n 1074) (two_pow_le_ten_pow (by omega))

/-- **A decimal is rounded like the quotient that it is**, however far its exponent. -/
theorem toMagnitude_eq (n : Nat) (e : Int) : Decimal.toMagnitude ⟨n, e⟩ =
    nearest (n * 10 ^ e.toNat) (10 ^ (-e).toNat) := by
  by_cases hn : n = 0
  · have hzero : 2 * (0 * 2 ^ 1074) < 10 ^ (-e).toNat := by
      rw [Nat.zero_mul]
      exact Nat.pow_pos (by decide)
    rw [hn, Nat.zero_mul, nearest_eq_zero hzero, Decimal.toMagnitude]
    exact if_pos rfl
  · cases e with
    | ofNat k =>
      have hplus : (Int.ofNat k).toNat = k := rfl
      have hminus : (-Int.ofNat k).toNat = 0 := Int.toNat_of_nonpos (by simp)
      rw [hminus, hplus, Nat.pow_zero]
      simp only [Decimal.toMagnitude, if_neg hn]
      split
      · rename_i hfar
        exact ((nearest_eq_infinity_iff Nat.one_pos).2 (overflow_le_ten_pow hfar hn)).symm
      · rfl
    | negSucc k =>
      have hplus : (Int.negSucc k).toNat = 0 := rfl
      have hminus : (-Int.negSucc k).toNat = k + 1 := rfl
      rw [hplus, hminus, Nat.pow_zero, Nat.mul_one]
      simp only [Decimal.toMagnitude, if_neg hn]
      split
      · rename_i hfar
        exact (nearest_eq_zero (lt_ten_pow hfar)).symm
      · rfl

theorem toMagnitude_natCast (n k : Nat) : Decimal.toMagnitude ⟨n, k⟩ = nearest (n * 10 ^ k) 1 := by
  have hplus : (k : Int).toNat = k := rfl
  have hminus : (-(k : Int)).toNat = 0 := by omega
  rw [toMagnitude_eq, hplus, hminus, Nat.pow_zero]

theorem toMagnitude_neg (n places : Nat) :
    Decimal.toMagnitude ⟨n, -places⟩ = nearest n (10 ^ places) := by
  have hplus : (-(places : Int)).toNat = 0 := by omega
  have hminus : (-(-(places : Int))).toNat = places := by omega
  rw [toMagnitude_eq, hplus, hminus, Nat.pow_zero, Nat.mul_one]

/-! ## Decimals that are infinite -/

theorem nearest_le (a b : Nat) : nearest a b ≤ infinity := Nat.min_le_left _ _

theorem toMagnitude_le (n places : Nat) : Decimal.toMagnitude ⟨n, -places⟩ ≤ infinity := by
  rw [toMagnitude_neg]
  exact nearest_le n (10 ^ places)

/-- **Which decimals are infinite.** -/
theorem toMagnitude_eq_infinity_iff (n places : Nat) :
    Decimal.toMagnitude ⟨n, -places⟩ = infinity ↔ overflow * 10 ^ places ≤ n := by
  rw [toMagnitude_neg]
  exact nearest_eq_infinity_iff (Nat.pow_pos (by decide))

end Number
end GymLang
