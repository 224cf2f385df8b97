/-!
# Magnitudes of binary64

Without its sign bit a binary64 number is a `Nat` below 2^63, and the order of these
magnitudes is the order of the numbers they stand for.  Every finite one is a whole number
of steps of 2^-1074 (`steps`).  `nearest` goes the other way, from a quotient of naturals
to the magnitude closest to it: of two equally close the one with an even last bit, and
infinity for anything beyond the largest finite number.
-/

namespace GymLang
namespace Number

/-- Magnitude of infinity.  Those above it are not numbers. -/
def infinity : Nat := 2047 <<< 52

/-- A finite magnitude counted in steps of 2^-1074. -/
def steps (m : Nat) : Nat :=
  if m < 1 <<< 53 then m else (m % (1 <<< 52) + (1 <<< 52)) <<< (m >>> 52 - 1)

/-- The quotient rounded to a whole number, a half to the even neighbour. -/
def roundDiv (a b : Nat) : Nat :=
  if 2 * (a % b) < b then a / b
  else if b < 2 * (a % b) then a / b + 1
  else a / b + a / b % 2

/-- The magnitude closest to `a / b`.  A magnitude of scale `s` is a multiple of `1 <<< s`
steps, and its 53 bits on top of `s` units of the exponent field are its code; a carry out
of the 53 bits then moves to the next scale by itself. -/
def nearest (a b : Nat) : Nat :=
  let scale := ((a <<< 1074) / b).log2 - 52
  min infinity ((scale <<< 52) + roundDiv (a <<< 1074) (b <<< scale))

/-- The magnitude of a number. -/
def magnitude (x : Float) : Nat := x.toBits.toNat % (1 <<< 63)

/-- Whether the sign bit is set. -/
def isNegative (x : Float) : Bool := 1 <<< 63 ≤ x.toBits.toNat

/-- The number with a given sign and magnitude. -/
def ofMagnitude (negative : Bool) (m : Nat) : Float :=
  Float.ofBits (UInt64.ofNat (if negative then (1 <<< 63) + m else m))

end Number
end GymLang
