import GymLang.Number.Decimal

/-!
# Writing numbers

A number is written with the fewest digits that read back as the same number, in
positional notation.  Among decimals of that many digits the closest is taken, and of two
equally close ones the larger.  Whole numbers so come without a point, and the sign of
zero is kept.
-/

namespace GymLang
namespace Number

/-- Position of the leading digit of a finite magnitude: the value lies below 10 to that
power and not below a tenth of it. -/
def leadingPlace (m : Nat) : Int :=
  ((Nat.toDigits 10 ((steps m * Nat.pow 10 400) >>> 1074)).length : Int) - 400

/-- A finite magnitude in units of `10 ^ e`, as a quotient. -/
def inUnits (m : Nat) : Int → Nat × Nat
  | .ofNat e => (steps m, Nat.pow 10 e <<< 1074)
  | .negSucc e => (steps m * Nat.pow 10 (e + 1), 1 <<< 1074)

/-- The multiple of `10 ^ e` that reads back as the magnitude: one of the two next to it,
the closer if both do, the upper if they are equally close. -/
def onGrid? (m : Nat) (e : Int) : Option Decimal :=
  let (a, b) := inUnits m e
  let lower : Decimal := ⟨a / b, e⟩
  let upper : Decimal := ⟨a / b + 1, e⟩
  if lower.toMagnitude = m then
    if upper.toMagnitude = m ∧ b ≤ 2 * (a % b) then some upper else some lower
  else if upper.toMagnitude = m then some upper
  else none

/-- All digits of a finite magnitude. -/
def exactDecimal (m : Nat) : Decimal := ⟨steps m * Nat.pow 5 1074, -1074⟩

/-- The shortest decimal that reads back as the magnitude.  Seventeen digits always
suffice; the full expansion closes the definition. -/
def shortest (m : Nat) : Decimal :=
  let found := (List.range 17).findSome? fun (i : Nat) => onGrid? m (leadingPlace m - (i + 1))
  let d := found.getD (exactDecimal m)
  Decimal.trimmed d.digits d.exponent

/-- Text of a magnitude. -/
def magnitudeText (m : Nat) : Text :=
  if m = infinity then "inf".toList
  else if m = 0 then ['0']
  else (shortest m).text

/-- Text of a number. -/
def write (x : Float) : Text :=
  if infinity < magnitude x then "NaN".toList
  else if isNegative x then '-' :: magnitudeText (magnitude x)
  else magnitudeText (magnitude x)

end Number
end GymLang
