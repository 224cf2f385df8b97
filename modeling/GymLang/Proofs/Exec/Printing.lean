import GymLang.Exec.Basic
import GymLang.Proofs.Number.WholeText
import GymLang.Proofs.Token.RoundTrip

/-!
# Printed numbers are read back

What is printed of a finite number is a number of the language, and as an argument it has the
value that was printed.

* `tokenize_write` — the text is one token.
* `valueOf_number` — a number as an argument has the value that its text is read as.
* `printed_numbers_read_back` — **printing a number and reading it gives its bits again**.
-/

namespace GymLang
namespace Exec

open Number (infinity magnitude isNegative isWhole units withSign write)
open Text (bytes)
open Token (tokenize)

variable {x : Float} {t : Text}

/-- **The text of a finite number** is one token. -/
theorem tokenize_write (h : magnitude x < infinity) :
    tokenize (write x) = .ok [⟨.number, write x, ⟨0, bytes (write x)⟩⟩] := by
  have hwell : ∀ t ∈ [(⟨.number, write x, ⟨0, bytes (write x)⟩⟩ : Token)], t.WellFormed := by
    intro t ht
    rw [List.mem_singleton.1 ht]
    exact Number.fits_write h
  have htokens := Token.tokensFrom_spaced hwell 0
  rw [Token.spaced_singleton] at htokens
  rw [Token.tokenize_eq_tokensFrom]
  refine htokens.trans ?_
  simp [Token.placed, Token.display]

/-- A number as an argument has the value that its text is read as, whatever the command is. -/
theorem valueOf_number (h : Number.read? t = some x) (w : Text) (ctx : Context) (span : Span) :
    valueOf w ctx ⟨.number, t, span⟩ = .ok x := by
  simp [valueOf, valueOf?, h, Except.map]

/-- **Printed numbers are read back.**  What is printed of any finite number, given by its bits, is
read as one token over the whole text, and the value of that token as an argument has the same
bits.  Whole numbers below 10 ^ 15 are printed with all their digits and nothing else but the sign,
which zero may have as well. -/
theorem printed_numbers_read_back (bits : UInt64) (h : bits.toNat % 2 ^ 63 < infinity) :
    tokenize (write (Float.ofBits bits)) =
      .ok [⟨.number, write (Float.ofBits bits), ⟨0, bytes (write (Float.ofBits bits))⟩⟩] ∧
    (∀ w ctx, ∃ y, valueOf w ctx ⟨.number, write (Float.ofBits bits),
      ⟨0, bytes (write (Float.ofBits bits))⟩⟩ = .ok y ∧ y.toBits = bits) ∧
    (isWhole (Float.ofBits bits) = true → units (magnitude (Float.ofBits bits)) < 10 ^ 15 →
      write (Float.ofBits bits) = withSign (decide (2 ^ 63 ≤ bits.toNat))
        (Nat.toDigits 10 (units (magnitude (Float.ofBits bits))))) := by
  have hbits : (Float.ofBits bits).toBits = bits := Number.toBits_ofBits (Nat.le_of_lt h)
  have hfinite : magnitude (Float.ofBits bits) < infinity := by
    rw [magnitude, hbits]
    exact h
  refine ⟨tokenize_write hfinite, ?_, ?_⟩
  · intro w ctx
    exact ⟨_, valueOf_number (Number.read?_write hfinite) w ctx _, hbits⟩
  · intro hwhole hsmall
    rw [Number.write_of_whole hwhole hsmall, isNegative, hbits]
    rfl

/-- Zero with a minus sign, the number next to zero, and the largest whole number of fifteen
digits. -/
theorem printed_numbers_read_back_edges :
    (tokenize "-0".toList = .ok [⟨.number, "-0".toList, ⟨0, 2⟩⟩] ∧
      ∃ y, valueOf "FLEX".toList ∅ ⟨.number, "-0".toList, ⟨0, 2⟩⟩ = .ok y ∧
        y.toBits = 0x8000000000000000) ∧
    (∃ y, valueOf "FLEX".toList ∅ ⟨.number, write (Float.ofBits 1),
      ⟨0, bytes (write (Float.ofBits 1))⟩⟩ = .ok y ∧ y.toBits = 1) ∧
    write (Float.ofBits 0xC30C6BF52633FFF8) = "-999999999999999".toList := by
  have hzero : write (Float.ofBits (0x8000000000000000)) = "-0".toList := by decide +kernel
  obtain ⟨htokens, hvalue, -⟩ := printed_numbers_read_back (0x8000000000000000) (by decide)
  rw [hzero] at htokens hvalue
  obtain ⟨-, hnext, -⟩ := printed_numbers_read_back 1 (by decide)
  obtain ⟨-, -, hwhole⟩ := printed_numbers_read_back 0xC30C6BF52633FFF8 (by decide)
  have hunits : units (magnitude (Float.ofBits 0xC30C6BF52633FFF8)) = 999999999999999 := by
    decide +kernel
  have htext := hwhole (by decide +kernel) (by rw [hunits]; decide)
  rw [hunits] at htext
  exact ⟨⟨htokens, hvalue "FLEX".toList ∅⟩, hnext "FLEX".toList ∅, htext⟩

end Exec
end GymLang
