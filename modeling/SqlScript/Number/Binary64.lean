/-!
# Binary floating-point numbers

The numbers of the double format: a significand of at most 53 bits times a power of two that is no
smaller than 2⁻¹⁰⁷⁴, the two infinities, and a value that is no number. They are not calculated
with, only written, and all of that is done in whole numbers.
-/

namespace SqlScript.Number

/-- A number of the double format. -/
inductive Binary64 where
  /-- `significand * 2 ^ exponent`, or its negative. -/
  | finite (negative : Bool) (significand : Nat) (exponent : Int)
  /-- An infinity. -/
  | infinite (negative : Bool)
  /-- No number. -/
  | nan
  deriving DecidableEq, Repr

/-- `base ^ n` when `n` is not negative, and otherwise 1. -/
def powerUp (base : Nat) (n : Int) : Nat := base.pow n.toNat

/-- The nearest whole number to a quotient, the even one of two that are equally near. -/
def roundQuotient (num den : Nat) : Nat :=
  let quotient := num / den
  let twice := 2 * (num % den)
  if twice < den then quotient
  else if den < twice then quotient + 1
  else quotient + quotient % 2

namespace Binary64

/-- The least significand of 53 bits. -/
def leastFull : Nat := 0x10000000000000

/-- The least power of two that a significand is scaled by. -/
def leastExponent : Int := -1074

end Binary64

end SqlScript.Number
