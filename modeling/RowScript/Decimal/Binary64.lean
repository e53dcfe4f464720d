/-!
Double-precision numbers as their bit patterns, with exact arithmetic in both
directions. A finite double is a natural number of units of `2 ^ -1074`, so a
fraction is rounded to the nearest double, ties to the even one, without ever
leaving the natural numbers.
-/

namespace RowScript

structure Binary64 where
  bits : UInt64
deriving DecidableEq

namespace Binary64

/-- Bit pattern of positive infinity; larger magnitudes are not numbers. -/
def infinityBits : Nat := 2047 * Nat.pow 2 52

def isNegative (x : Binary64) : Bool :=
  Nat.pow 2 63 ≤ x.bits.toNat

/-- The bit pattern without the sign. -/
def magnitudeBits (x : Binary64) : Nat :=
  x.bits.toNat % Nat.pow 2 63

def isNaN (x : Binary64) : Bool :=
  infinityBits < x.magnitudeBits

def isInfinite (x : Binary64) : Bool :=
  x.magnitudeBits == infinityBits

def isFinite (x : Binary64) : Bool :=
  x.magnitudeBits < infinityBits

/-- A finite double is `significand * 2 ^ unit` units of `2 ^ -1074`. -/
def significand (x : Binary64) : Nat :=
  let fraction := x.magnitudeBits % Nat.pow 2 52
  if x.magnitudeBits < Nat.pow 2 52 then fraction else Nat.pow 2 52 + fraction

def unit (x : Binary64) : Nat :=
  x.magnitudeBits / Nat.pow 2 52 - 1

/-- Magnitude in units of `2 ^ -1074`. -/
def magnitude (x : Binary64) : Nat :=
  x.significand * Nat.pow 2 x.unit

/-- The double with the given sign whose magnitude has the given bit pattern. -/
def ofMagnitudeBits (negative : Bool) (magnitude : Nat) : Binary64 :=
  ⟨UInt64.ofNat ((if negative then Nat.pow 2 63 else 0) + magnitude)⟩

def zero (negative : Bool) : Binary64 := ofMagnitudeBits negative 0

def infinity (negative : Bool) : Binary64 := ofMagnitudeBits negative infinityBits

def nan (negative : Bool) : Binary64 := ofMagnitudeBits negative (infinityBits + Nat.pow 2 51)

/-- The integer nearest to a fraction, a half going to the even neighbour. -/
def roundHalfEven (numerator denominator : Nat) : Nat :=
  let floor := numerator / denominator
  let rest := numerator % denominator
  if 2 * rest < denominator then floor
  else if denominator < 2 * rest then floor + 1
  else floor + floor % 2

/-- The double nearest to `numerator / denominator`; a magnitude that rounds
beyond the largest double is infinite. A significand that rounds up to `2 ^ 53`
carries into the exponent by itself, as the two fields are adjacent. -/
def ofRatio (negative : Bool) (numerator denominator : Nat) : Binary64 :=
  let scaled := numerator * Nat.pow 2 1074
  let unit := (scaled / denominator).log2 - 52
  let bits := unit * Nat.pow 2 52 + roundHalfEven scaled (denominator * Nat.pow 2 unit)
  ofMagnitudeBits negative (min bits infinityBits)

def ofInt (n : Int) : Binary64 :=
  ofRatio (n < 0) n.natAbs 1

/-- The double nearest to `digits * 10 ^ exponent`. Exponents that leave the
range of doubles for any digits are settled without computing the power. -/
def ofDecimal (negative : Bool) (digits : Nat) (exponent : Int) : Binary64 :=
  if digits = 0 then zero negative
  else if 310 ≤ exponent then infinity negative
  else if exponent + digits.log2 / 3 + 2 < -330 then zero negative
  else if 0 ≤ exponent then ofRatio negative (digits * Nat.pow 10 exponent.toNat) 1
  else ofRatio negative digits (Nat.pow 10 (-exponent).toNat)

/-- The magnitude of a finite double times `factor`, rounded. -/
def scaleUp (x : Binary64) (factor : Binary64) : Binary64 :=
  ofRatio x.isNegative (x.magnitude * factor.magnitude) (Nat.pow 2 2148)

/-- The magnitude of a finite double divided by `divisor`, rounded. -/
def scaleDown (x : Binary64) (divisor : Binary64) : Binary64 :=
  ofRatio x.isNegative x.magnitude divisor.magnitude

end Binary64

end RowScript
