import GymLang.Number.Magnitude
import GymLang.Text.Digit

/-!
# Decimals

A decimal is a whole number of digits times a power of ten.  `Decimal.toMagnitude` rounds
it to binary64 and `Decimal.text` writes it out in positional notation, however large or
small it is.
-/

namespace GymLang
namespace Number

/-- The value `digits * 10 ^ exponent`. -/
structure Decimal where
  digits : Nat
  exponent : Int
deriving DecidableEq

namespace Decimal

/-- The closest magnitude.  Two guards keep far exponents from being computed with: past
10^400 everything is infinite, and below half of the smallest step everything is zero. -/
def toMagnitude (d : Decimal) : Nat :=
  if d.digits = 0 then 0
  else match d.exponent with
    | .ofNat e => if 400 < e then infinity else nearest (d.digits * Nat.pow 10 e) 1
    | .negSucc e =>
      if d.digits.log2 + 1076 < 3 * (e + 1) then 0 else nearest d.digits (Nat.pow 10 (e + 1))

/-- Drops the zeros at the end of the digits. -/
def trimmed (digits : Nat) (exponent : Int) : Decimal :=
  if h : digits ≠ 0 ∧ digits % 10 = 0 then trimmed (digits / 10) (exponent + 1)
  else ⟨digits, exponent⟩
termination_by digits
decreasing_by omega

/-- Writes `ds` with a point before its last `places` digits, and zeros in front as
needed. -/
def withPoint (ds : Text) (places : Nat) : Text :=
  if places < ds.length then
    ds.take (ds.length - places) ++ '.' :: ds.drop (ds.length - places)
  else '0' :: '.' :: List.replicate (places - ds.length) '0' ++ ds

/-- Positional notation, without exponent. -/
def text (d : Decimal) : Text :=
  let ds := Nat.toDigits 10 d.digits
  match d.exponent with
  | .ofNat e => ds ++ List.replicate e '0'
  | .negSucc e => withPoint ds (e + 1)

end Decimal
end Number
end GymLang
