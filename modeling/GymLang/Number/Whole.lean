import GymLang.Number.Magnitude

/-!
# Whole numbers

Rounding to whole numbers upwards and downwards, and factorials.  A finite magnitude is
whole when its steps make up full units; from 2^52 on all are.
-/

namespace GymLang
namespace Number

/-- Units in a finite magnitude, without the fraction. -/
def units (m : Nat) : Nat := steps m >>> 1074

/-- Whether a magnitude is finite and without fraction. -/
def isWholeMagnitude (m : Nat) : Bool := m < infinity && steps m % (1 <<< 1074) == 0

/-- Whether a number is finite and without fraction. -/
def isWhole (x : Float) : Bool := isWholeMagnitude (magnitude x)

/-- The next whole number away from zero if `away`, else towards zero.  What has no
fraction stays as it is. -/
def toWhole (away : Bool) (x : Float) : Float :=
  let m := magnitude x
  if infinity ≤ m || isWholeMagnitude m then x
  else ofMagnitude (isNegative x) (nearest (if away then units m + 1 else units m) 1)

/-- The smallest whole number not below a number. -/
def ceil (x : Float) : Float := toWhole (!isNegative x) x

/-- The largest whole number not above a number. -/
def floor (x : Float) : Float := toWhole (isNegative x) x

/-- Product of the first `n` whole numbers. -/
def factorial (n : Nat) : Float :=
  (List.range n).foldl (fun product i => product * ofMagnitude false (nearest (i + 1) 1)) 1

/-- The larger of two numbers; what is not a number gives way. -/
def larger (x y : Float) : Float := if y.isNaN then x else if x.isNaN || x < y then y else x

/-- The smaller of two numbers; what is not a number gives way. -/
def smaller (x y : Float) : Float := if y.isNaN then x else if x.isNaN || y < x then y else x

end Number
end GymLang
