import Mathlib.Algebra.Group.Nat.Defs
import GymLang.Number.Magnitude

/-!
# Numbers and their bits

A binary64 number is its 64 bits: a sign, an exponent of eleven bits and a mantissa of 52.  All
patterns stand for a number of their own, except that those above infinity are all one.

* `pack_unpack` — taking the three parts of a pattern and putting them together again.
* `ofBits_toBits`, `toBits_ofBits` — **a number is the one of its bits**, and a pattern of a number
  no larger than infinity is the bits of that number.
* `ofMagnitude_self` — a number is given by its sign and its magnitude.
-/

namespace GymLang
namespace Number

open Float.Model (UnpackedFloat Format)
open Float.Model.UnpackedFloat

variable {b : BitVec 64} {x : Float}

/-! ## The parts of a pattern -/

theorem toNat_unpackSign (b : BitVec 64) : (@unpackSign .binary64 b).toNat = b.toNat / 2 ^ 63 := by
  have hb := b.isLt
  show (b.extractLsb 63 63).toNat = _
  rw [BitVec.extractLsb_toNat, Nat.shiftRight_eq_div_pow]
  omega

theorem toNat_unpackExponent (b : BitVec 64) :
    (@unpackExponent .binary64 b).toNat = b.toNat / 2 ^ 52 % 2 ^ 11 := by
  show (b.extractLsb 62 52).toNat = _
  rw [BitVec.extractLsb_toNat, Nat.shiftRight_eq_div_pow]

theorem toNat_unpackMantissa (b : BitVec 64) :
    (@unpackMantissa .binary64 b).toNat = b.toNat % 2 ^ 52 := by
  show (b.extractLsb 51 0).toNat = _
  rw [BitVec.extractLsb_toNat, Nat.shiftRight_zero]

theorem toBitVec_ofBitVec (b : BitVec 1) : (Sign.ofBitVec b).toBitVec = b := by
  revert b
  decide

theorem toNat_packComponents (s : Sign) (e : BitVec 11) (m : BitVec 52) :
    (packComponents .binary64 s e m).toNat =
      s.toBitVec.toNat * 2 ^ 63 + e.toNat * 2 ^ 52 + m.toNat := by
  have happend : packComponents .binary64 s e m = s.toBitVec ++ e ++ m := rfl
  rw [happend, BitVec.toNat_append, BitVec.toNat_append,
    ← Nat.shiftLeft_add_eq_or_of_lt e.isLt, ← Nat.shiftLeft_add_eq_or_of_lt m.isLt,
    Nat.shiftLeft_eq, Nat.shiftLeft_eq]
  omega

/-- **A pattern is made up of its parts.** -/
theorem packComponents_parts (b : BitVec 64) :
    packComponents .binary64 (Sign.ofBitVec (@unpackSign .binary64 b))
      (@unpackExponent .binary64 b) (@unpackMantissa .binary64 b) = b := by
  apply BitVec.eq_of_toNat_eq
  rw [toNat_packComponents, toBitVec_ofBitVec, toNat_unpackSign, toNat_unpackExponent,
    toNat_unpackMantissa]
  have hb := b.isLt
  omega

/-! ## Patterns and numbers -/

/-- A mantissa of 53 bits has the exponent that it says, any shorter one the lowest. -/
theorem pack_finite {m n : Nat} {i : Int} (s : Sign) (hm : 0 < m) (hi : i + 1023 + 52 = n)
    (hn : n < 2047) : pack .binary64 (.finite s m i hm) =
      packComponents .binary64 s (if m.log2 = 52 then BitVec.ofNat 11 n else 0#11)
        (BitVec.ofNat 52 m) := by
  have hbiased : (i + 1023 + 52).toNat = n := by rw [hi, Int.toNat_natCast]
  have hfits : ¬ 2 ^ 11 ≤ (i + 1023 + 52).toNat + 1 := by omega
  have hlog : m.log2 + 1 = 1 + 52 ↔ m.log2 = 52 := Nat.add_right_cancel_iff
  show (if 2 ^ 11 ≤ (i + 1023 + 52).toNat + 1 then packedInfinity .binary64 s
    else if m.log2 + 1 = 1 + 52 then
      packComponents .binary64 s (BitVec.ofNat 11 (i + 1023 + 52).toNat) (BitVec.ofNat 52 m)
    else packComponents .binary64 s 0#11 (BitVec.ofNat 52 m)) = _
  rw [if_neg hfits, hbiased]
  by_cases h : m.log2 = 52
  · rw [if_pos (hlog.2 h), if_pos h]
  · rw [if_neg ((not_congr hlog).2 h), if_neg h]

/-- A mantissa of 52 bits, at the lowest exponent. -/
theorem pack_subnormal {i : Int} (s : Sign) (m : BitVec 52) (hm : 0 < m.toNat)
    (hi : i + 1023 + 52 = (1 : Nat)) :
    pack .binary64 (.finite s m.toNat i hm) = packComponents .binary64 s 0#11 m := by
  have hlog : m.toNat.log2 ≠ 52 := by
    have hlt := (Nat.log2_lt (Nat.ne_of_gt hm)).2 m.isLt
    omega
  rw [pack_finite s hm hi (by decide), if_neg hlog, BitVec.ofNat_toNat, BitVec.setWidth_eq]

/-- The bit that is left out of a mantissa. -/
theorem toNat_one_append (m : BitVec 52) : (1#1 ++ m).toNat = 2 ^ 52 + m.toNat := by
  rw [BitVec.toNat_append, ← Nat.shiftLeft_add_eq_or_of_lt m.isLt, Nat.shiftLeft_eq]
  rfl

/-- A mantissa of 53 bits, at any exponent but that of infinity. -/
theorem pack_normal {i : Int} (s : Sign) (e : BitVec 11) (m : BitVec 52)
    (hm : 0 < (1#1 ++ m).toNat) (hi : i + 1023 + 52 = e.toNat) (he : e ≠ -1#11) :
    pack .binary64 (.finite s (1#1 ++ m).toNat i hm) = packComponents .binary64 s e m := by
  have hlt : e.toNat < 2047 := by
    have hne : e.toNat ≠ 2047 := fun h => he (BitVec.eq_of_toNat_eq h)
    have hmax := e.isLt
    omega
  have hvalue := toNat_one_append m
  have hmantissa := m.isLt
  have hlog : (1#1 ++ m).toNat.log2 = 52 := by
    rw [Nat.log2_eq_iff (Nat.ne_of_gt hm)]
    omega
  have hrest : BitVec.ofNat 52 (1#1 ++ m).toNat = m := by
    apply BitVec.eq_of_toNat_eq
    rw [BitVec.toNat_ofNat]
    omega
  rw [pack_finite s hm hi hlt, if_pos hlog, hrest, BitVec.ofNat_toNat, BitVec.setWidth_eq]

/-- **A pattern that is valid** comes back from the number it stands for. -/
theorem pack_unpack (h : Format.binary64.Valid b) :
    pack .binary64 (unpack .binary64 b) = b := by
  have hparts := packComponents_parts b
  unfold unpack
  dsimp only
  by_cases hlast : @unpackExponent .binary64 b = -1#11
  · rw [if_pos hlast]
    rw [hlast] at hparts
    by_cases hzero : @unpackMantissa .binary64 b = 0#52
    · rw [if_pos hzero]
      rwa [hzero] at hparts
    · rw [if_neg hzero]
      exact (h.eq_packedNaN hlast hzero).symm
  · rw [if_neg hlast]
    by_cases hfirst : @unpackExponent .binary64 b = 0#11
    · rw [if_pos hfirst]
      rw [hfirst] at hparts
      by_cases hzero : @unpackMantissa .binary64 b = 0#52
      · rw [dif_pos hzero]
        rwa [hzero] at hparts
      · rw [dif_neg hzero, pack_subnormal, hparts]
        rw [hfirst]
        rfl
    · rw [if_neg hfirst, pack_normal _ _ _ _ _ hlast, hparts]
      show ((@unpackExponent .binary64 b).toNat : Int) - (1023 + 52) + 1023 + 52 =
        (@unpackExponent .binary64 b).toNat
      omega

/-- Patterns no larger than infinity are valid. -/
theorem valid_of_le (h : b.toNat % 2 ^ 63 ≤ infinity) : Format.binary64.Valid b where
  eq_packedNaN hexponent hmantissa := by
    have hinfinity : infinity = 2047 * 2 ^ 52 := rfl
    have hlast : b.toNat / 2 ^ 52 % 2 ^ 11 = 2047 := by
      rw [← toNat_unpackExponent, hexponent]
      rfl
    have hzero : (@unpackMantissa .binary64 b).toNat = 0 := by
      rw [toNat_unpackMantissa]
      omega
    exact absurd (BitVec.eq_of_toNat_eq hzero) hmantissa

/-! ## Bits of numbers -/

/-- **A number is the one of its bits.** -/
theorem ofBits_toBits (x : Float) : Float.ofBits x.toBits = x := by
  obtain ⟨⟨bits, hvalid⟩⟩ := x
  have hmodel : Float.Model.ofBits bits = ⟨bits, hvalid⟩ :=
    (Float.Model.mk.injEq _ _ _ _).mpr (UInt64.toBitVec_inj.1 (pack_unpack hvalid))
  exact congrArg Float.ofModel hmodel

/-- **Patterns no larger than infinity** are the bits of their numbers. -/
theorem toBits_ofBits {bits : UInt64} (h : bits.toNat % 2 ^ 63 ≤ infinity) :
    (Float.ofBits bits).toBits = bits := by
  have hpack := pack_unpack (valid_of_le (b := bits.toBitVec) h)
  exact UInt64.toBitVec_inj.1 hpack

/-- A number is given by its sign and its magnitude. -/
theorem ofMagnitude_self (x : Float) : ofMagnitude (isNegative x) (magnitude x) = x := by
  have hbits : UInt64.ofNat (if isNegative x then (1 <<< 63) + magnitude x else magnitude x) =
      x.toBits := by
    have hmax := x.toBits.toNat_lt
    have hbits := Nat.div_add_mod x.toBits.toNat (2 ^ 63)
    simp only [isNegative, magnitude, decide_eq_true_eq, Nat.shiftLeft_eq, Nat.one_mul]
    refine Eq.trans (congrArg UInt64.ofNat ?_) UInt64.ofNat_toNat
    split
    · omega
    · omega
  rw [ofMagnitude, hbits, ofBits_toBits]

end Number
end GymLang
