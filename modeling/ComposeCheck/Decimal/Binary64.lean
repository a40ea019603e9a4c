/-!
# Binary numbers of 64 bits

Floating-point numbers as a mantissa and a power of two, kept exactly, and the one that is nearest
to a decimal.
-/

namespace ComposeCheck

/-- A number of 64 bits. A finite one is `mantissa * 2 ^ exponent` with its sign; the mantissa has
53 bits, or fewer if the exponent is the least, `-1074`. -/
inductive Binary64 where
  | nan
  | infinite (negative : Bool)
  | finite (negative : Bool) (mantissa : Nat) (exponent : Int)
  deriving DecidableEq

/-- The numerator of `base ^ exponent`: one if the exponent is negative. -/
def numPower (base : Nat) (exponent : Int) : Nat := Nat.pow base exponent.toNat

/-- The denominator of `base ^ exponent`: one if the exponent is positive. -/
def denPower (base : Nat) (exponent : Int) : Nat := Nat.pow base (-exponent).toNat

namespace Binary64

def leastNormal : Nat := 4503599627370496

/-- The natural number nearest to `num / den`, a half going to the even one. -/
def roundDiv (num den : Nat) : Nat :=
  let quotient := num / den
  let rest := 2 * (num % den)
  if den < rest || rest = den && quotient % 2 = 1 then quotient + 1 else quotient

/-- The least exponent at which `num / den` has a mantissa of at most 53 bits. -/
def exponentFor (num den : Nat) : Int :=
  let guess : Int := max (num.log2 - den.log2 - 53) (-1074)
  let mantissa := num * denPower 2 guess / (den * numPower 2 guess)
  if mantissa < 2 * leastNormal then guess else guess + 1

/-- The number nearest to `num / den`, a half going to the even mantissa. -/
def nearest (negative : Bool) (num den : Nat) : Binary64 :=
  if num = 0 then finite negative 0 (-1074)
  else
    let exponent := exponentFor num den
    let mantissa := roundDiv (num * denPower 2 exponent) (den * numPower 2 exponent)
    let (mantissa, exponent) :=
      if mantissa = 2 * leastNormal then (leastNormal, exponent + 1) else (mantissa, exponent)
    if 971 < exponent then infinite negative else finite negative mantissa exponent

/-- The number nearest to `digits * 10 ^ exponent`. Beyond 310 places before the point, or more
than 330 zeros after it, the answer is plain and the power is not worked out. -/
def ofDecimal (negative : Bool) (digits : Nat) (exponent : Int) : Binary64 :=
  let places := exponent + (Nat.toDigits 10 digits).length
  if digits = 0 ∨ places < -330 then finite negative 0 (-1074)
  else if 310 < places then infinite negative
  else nearest negative (digits * numPower 10 exponent) (denPower 10 exponent)

end Binary64

end ComposeCheck
