/-!
# Binary floating-point numbers

The numbers of a document are IEEE 754 binary64 values: a 53-bit integer times a power of two,
the two infinities, and not-a-number. A decimal is rounded to the nearest of them
(`ofDecimal`), a half going to the even integer. Everything is exact arithmetic on natural
numbers, so what the text of a number is can be reasoned about. Powers are spelt `Nat.pow`, the
operation on natural numbers that every other spelling comes down to.
-/

namespace CMakeGen

/-- A binary64 value. `finite negative m q` is `m · 2 ^ q` with its sign; `m < 2 ^ 53`. -/
inductive Binary64 where
  | finite (negative : Bool) (mantissa : Nat) (exponent : Int)
  | infinite (negative : Bool)
  | nan
deriving DecidableEq

namespace Binary64

/-- The least exponent, that of the subnormal numbers. -/
def minExponent : Int := -1074

/-- The greatest exponent. -/
def maxExponent : Int := 971

def zero (negative : Bool) : Binary64 := .finite negative 0 minExponent

/-- Zero, of either sign. -/
def isZero : Binary64 → Bool
  | .finite _ 0 _ => true
  | _ => false

/-- The integer nearest to `numerator / denominator`, a half going to the even one. -/
def roundHalfEven (numerator denominator : Nat) : Nat :=
  let quotient := numerator / denominator
  let twice := 2 * (numerator % denominator)
  if twice < denominator then quotient
  else if denominator < twice then quotient + 1
  else quotient + quotient % 2

/-- The fraction `numerator / denominator` in units of `2 ^ exponent`. -/
def inUnits (numerator denominator : Nat) (exponent : Int) : Nat × Nat :=
  match exponent with
  | .ofNat e => (numerator, denominator <<< e)
  | .negSucc e => (numerator <<< (e + 1), denominator)

/-- The value nearest to a positive fraction. -/
def ofFraction (negative : Bool) (numerator denominator : Nat) : Binary64 :=
  let magnitude : Int := (numerator.log2 : Int) - denominator.log2
  let guess := magnitude - 53
  let (n, d) := inUnits numerator denominator guess
  let exponent := max minExponent (if n / d < Nat.pow 2 53 then guess else guess + 1)
  let (n, d) := inUnits numerator denominator exponent
  let mantissa := roundHalfEven n d
  let (mantissa, exponent) :=
    if mantissa = Nat.pow 2 53 then (Nat.pow 2 52, exponent + 1) else (mantissa, exponent)
  if maxExponent < exponent then .infinite negative else .finite negative mantissa exponent

/-- The value nearest to `digits · 10 ^ exponent`. A decimal beyond the range of the type is
recognised by the place of its leading digit, before any power is computed. -/
def ofDecimal (negative : Bool) (digits : Nat) (exponent : Int) : Binary64 :=
  if digits = 0 then zero negative
  else
    let leading : Int := (Nat.toDigits 10 digits).length + exponent
    if 400 < leading then .infinite negative
    else if leading < -400 then zero negative
    else match exponent with
      | .ofNat e => ofFraction negative (digits * Nat.pow 10 e) 1
      | .negSucc e => ofFraction negative digits (Nat.pow 10 (e + 1))

end Binary64

end CMakeGen
