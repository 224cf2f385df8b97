import GymLang.Json.Basic
import GymLang.Number.Reading

/-!
# Numbers of JSON

A literal without fraction and exponent is a whole number if it fits into 64 bits, and
zero with a minus sign is not one.  Any other literal stands for a binary64 number, which
is not always the one closest to it: as many digits as fit into 64 bits are read and
rounded, and the result is multiplied or divided by a power of ten, which is rounded
itself.
-/

namespace GymLang
namespace Json
namespace Literal

/-- Appends digits to a whole number while it fits into 64 bits, and gives back the digits
that are left. -/
def appendDigits : Nat → Text → Nat × Text
  | n, [] => (n, [])
  | n, c :: rest =>
    if 10 * n + (c.toNat - '0'.toNat) < 1 <<< 64 then
      appendDigits (10 * n + (c.toNat - '0'.toNat)) rest
    else (n, c :: rest)

/-- A whole number as a binary64 number. -/
def rounded (n : Nat) : Float := Number.ofMagnitude false (Number.nearest n 1)

/-- A number times a power of ten, if that is finite.  The powers in use go up to the
308th; what has to become smaller than by that is first divided by it. -/
def scaled? (x : Float) (e : Int) : Option Float :=
  if e.natAbs ≤ 308 then
    if e < 0 then some (x / rounded (Nat.pow 10 e.natAbs))
    else
      let y := x * rounded (Nat.pow 10 e.natAbs)
      if Number.magnitude y < Number.infinity then some y else none
  else if x == 0 then some x
  else if 0 ≤ e then none
  else scaled? (x / rounded (Nat.pow 10 308)) (e + 308)
termination_by e.natAbs

/-- The number of a literal that is not whole: its digits before and after the point, and
its exponent. -/
def float? (negative : Bool) (whole fraction : Text) (exponent : Int) : Option Json :=
  let (n, tooLong) := appendDigits 0 whole
  let (n, unread) := appendDigits n fraction
  let e := exponent + tooLong.length - (fraction.length - unread.length : Nat)
  (scaled? (rounded n) e).map fun x => .float (if negative then -x else x)

/-- The number of a literal without fraction and exponent. -/
def whole? (negative : Bool) (whole : Text) : Option Json :=
  let n := Number.natOfDigits whole
  if negative && (n == 0 || (1 <<< 63) < n) || (1 <<< 64) ≤ n then float? negative whole [] 0
  else some (.int (if negative then -n else n))

end Literal
end Json
end GymLang
