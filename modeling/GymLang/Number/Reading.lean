import GymLang.Number.Decimal

/-!
# Reading numbers

A number is an optional sign, digits with at most one point among, before or after them,
and an optional exponent; or, after the sign, one of the words for infinity and for what
is not a number, in any letter case.  The value is the closest binary64 number, infinite
when it is too large.
-/

namespace GymLang
namespace Number

/-- A leading sign, true for minus, and what follows it. -/
def splitSign : Text → Bool × Text
  | '-' :: t => (true, t)
  | '+' :: t => (false, t)
  | t => (false, t)

/-- Value of a row of digits. -/
def natOfDigits (t : Text) : Nat := t.foldl (fun n c => 10 * n + (c.toNat - '0'.toNat)) 0

/-- The exponent a number ends with: zero for an empty text. -/
def readExponent? : Text → Option Int
  | [] => some 0
  | c :: t =>
    if c = 'e' ∨ c = 'E' then
      let (negative, ds) := splitSign t
      if ds.isEmpty || !ds.all Text.isDigit then none
      else if negative then some (-(natOfDigits ds : Int)) else some (natOfDigits ds)
    else none

/-- Digits, a point and digits, of which not both may be missing, and an exponent. -/
def readDecimal? (t : Text) : Option Decimal :=
  let whole := t.takeWhile Text.isDigit
  let rest := t.dropWhile Text.isDigit
  let afterPoint := match rest with
    | '.' :: u => u
    | _ => []
  let fraction := afterPoint.takeWhile Text.isDigit
  let tail := match rest with
    | '.' :: u => u.dropWhile Text.isDigit
    | u => u
  if whole.isEmpty && fraction.isEmpty then none
  else (readExponent? tail).map fun e => ⟨natOfDigits (whole ++ fraction), e - fraction.length⟩

/-- The number a text spells out. -/
def read? (t : Text) : Option Float :=
  let (negative, body) := splitSign t
  let word := body.map Char.toLower
  if word = "inf".toList ∨ word = "infinity".toList then some (ofMagnitude negative infinity)
  else if word = "nan".toList then some (ofMagnitude negative (infinity + (1 <<< 51)))
  else (readDecimal? body).map fun d => ofMagnitude negative d.toMagnitude

end Number
end GymLang
