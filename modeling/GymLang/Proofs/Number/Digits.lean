import Mathlib.Algebra.Group.Nat.Defs
import Mathlib.Data.List.Induction
import GymLang.Number.Reading

/-!
# Digits and the whole numbers they say

Different rows of digits say the same number just if they differ in the zeros in front.
`numeral` is the one without such zeros.

* `eq_zeros_append_numeral` — any row of digits is zeros and the numeral of its number.
* `natOfDigits_zeros_append`, `natOfDigits_append_zeros` — what zeros in front of digits and
  behind them do to the number.
* `natOfDigits_eq_succ_iff` — **the rows of digits that say a number** other than zero.
-/

namespace GymLang
namespace Number

open Text (isDigit)

/-- The digits of a whole number, without zeros in front.  Zero has none. -/
def numeral (n : Nat) : Text := if n = 0 then [] else Nat.toDigits 10 n

variable {c : Char} {ds : Text} {n d : Nat}

theorem isDigit_eq (c : Char) : isDigit c = c.isDigit := rfl

/-- A digit is the one that its value is written with. -/
theorem digitChar_value (h : isDigit c = true) :
    c.toNat - '0'.toNat < 10 ∧ (c.toNat - '0'.toNat).digitChar = c := by
  have hbounds : 48 ≤ c.toNat ∧ c.toNat ≤ 57 := by
    simpa [isDigit, Char.le_def, UInt32.le_iff_toNat_le] using h
  have hzero : '0'.toNat = 48 := rfl
  have hlt : c.toNat - '0'.toNat < 10 := by omega
  refine ⟨hlt, Char.toNat_inj.1 ?_⟩
  rw [Nat.toNat_digitChar_of_lt_ten hlt]
  omega

theorem natOfDigits_concat (ds : Text) (c : Char) :
    natOfDigits (ds ++ [c]) = 10 * natOfDigits ds + (c.toNat - '0'.toNat) := by
  rw [natOfDigits, List.foldl_append]
  rfl

/-- One more digit behind those of a number. -/
theorem numeral_concat (hd : d < 10) (h : 10 * n + d ≠ 0) :
    numeral (10 * n + d) = numeral n ++ [d.digitChar] := by
  by_cases hn : n = 0
  · subst hn
    rw [Nat.mul_zero, Nat.zero_add] at h ⊢
    rw [numeral, if_neg h, Nat.toDigits_of_lt_base hd]
    rfl
  · rw [numeral, if_neg h, numeral, if_neg hn, ← Nat.toDigits_of_lt_base hd]
    exact (Nat.toDigits_append_toDigits (by decide) (Nat.pos_of_ne_zero hn) hd).symm

/-- **Any row of digits** is zeros and the numeral of what it says. -/
theorem eq_zeros_append_numeral (h : ∀ c ∈ ds, isDigit c = true) :
    ∃ k, ds = List.replicate k '0' ++ numeral (natOfDigits ds) := by
  induction ds using List.reverseRecOn with
  | nil => exact ⟨0, rfl⟩
  | append_singleton ds c ih =>
    obtain ⟨hds, hc⟩ := List.forall_mem_append.1 h
    obtain ⟨k, hk⟩ := ih hds
    obtain ⟨hlt, hchar⟩ := digitChar_value (hc c List.mem_cons_self)
    rw [natOfDigits_concat]
    by_cases hzero : 10 * natOfDigits ds + (c.toNat - '0'.toNat) = 0
    · -- all digits so far are zeros, and so is the last one
      have hsaid : natOfDigits ds = 0 := by omega
      have hlast : c.toNat - '0'.toNat = 0 := by omega
      rw [hlast] at hchar
      rw [hsaid, numeral, if_pos rfl, List.append_nil] at hk
      refine ⟨k + 1, ?_⟩
      rw [hzero, numeral, if_pos rfl, List.append_nil, hk, ← hchar, List.replicate_succ']
      rfl
    · refine ⟨k, ?_⟩
      rw [numeral_concat hlt hzero, hchar, ← List.append_assoc, ← hk]

theorem natOfDigits_eq (ds : Text) : natOfDigits ds = Nat.ofDigitChars 10 ds 0 := rfl

theorem isDigit_of_mem_zeros {k : Nat} (h : c ∈ List.replicate k '0') : isDigit c = true := by
  rw [List.eq_of_mem_replicate h]
  rfl

/-- **Zeros in front make no difference.** -/
theorem natOfDigits_zeros_append (k : Nat) (ds : Text) :
    natOfDigits (List.replicate k '0' ++ ds) = natOfDigits ds := by
  rw [natOfDigits_eq, Nat.ofDigitChars_append, Nat.ofDigitChars_replicate_zero, Nat.mul_zero,
    natOfDigits_eq]

/-- Zeros behind are powers of ten. -/
theorem natOfDigits_append_zeros (ds : Text) (k : Nat) :
    natOfDigits (ds ++ List.replicate k '0') = natOfDigits ds * 10 ^ k := by
  rw [natOfDigits_eq, Nat.ofDigitChars_append, Nat.ofDigitChars_replicate_zero, Nat.mul_comm,
    natOfDigits_eq]

theorem isDigit_of_mem_toDigits (h : c ∈ Nat.toDigits 10 n) : isDigit c = true := by
  rw [isDigit_eq]
  exact Nat.isDigit_of_mem_toDigits (by decide) (by decide) h

theorem natOfDigits_toDigits (n : Nat) : natOfDigits (Nat.toDigits 10 n) = n :=
  Nat.ofDigitChars_ten_toDigits

/-- A number times a power of ten is written with zeros behind its digits. -/
theorem toDigits_mul_ten_pow (hn : 0 < n) (k : Nat) :
    Nat.toDigits 10 (n * 10 ^ k) = Nat.toDigits 10 n ++ List.replicate k '0' := by
  induction k with
  | zero => rw [Nat.pow_zero, Nat.mul_one, List.replicate_zero, List.append_nil]
  | succ k ih =>
    have hpos : 0 < n * 10 ^ k := Nat.mul_pos hn (Nat.pow_pos (by decide))
    rw [Nat.pow_succ, ← Nat.mul_assoc, Nat.toDigits_of_base_le (by decide) (by omega),
      Nat.mul_div_cancel _ (by decide), Nat.mul_mod_left, ih, List.replicate_succ',
      List.append_assoc]
    rfl

theorem natOfDigits_numeral (n : Nat) : natOfDigits (numeral n) = n := by
  rw [numeral]
  split
  · rename_i hzero
    rw [hzero]
    rfl
  · exact natOfDigits_toDigits n

theorem isDigit_of_mem_numeral (h : c ∈ numeral n) : isDigit c = true := by
  rw [numeral] at h
  split at h
  · exact absurd h List.not_mem_nil
  · exact isDigit_of_mem_toDigits h

/-- **The rows of digits that say a number** other than zero are its numeral with any number
of zeros in front. -/
theorem natOfDigits_eq_succ_iff :
    ((∀ c ∈ ds, isDigit c = true) ∧ natOfDigits ds = n + 1) ↔
      ∃ k, ds = List.replicate k '0' ++ numeral (n + 1) := by
  constructor
  · rintro ⟨hds, hn⟩
    obtain ⟨k, hk⟩ := eq_zeros_append_numeral hds
    exact ⟨k, hn ▸ hk⟩
  · rintro ⟨k, rfl⟩
    refine ⟨fun c hc => ?_, ?_⟩
    · rcases List.mem_append.1 hc with hc | hc
      · exact isDigit_of_mem_zeros hc
      · exact isDigit_of_mem_numeral hc
    · rw [natOfDigits_zeros_append, natOfDigits_numeral]

end Number
end GymLang
