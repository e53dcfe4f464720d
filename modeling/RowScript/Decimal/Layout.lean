import RowScript.Decimal.Shortest

/-!
The two written forms of a double. The plain form is always positional and
writes an integral number without a fraction. The JSON form marks every number
as a fraction or an exponent, turns to an exponent outside `1e-5` to `1e16`,
and has no word for what is not a number.
-/

namespace RowScript

namespace Decimal

/-- Digits of a natural number in base ten. -/
def digitsOf (n : Nat) : List Char :=
  Nat.toDigits 10 n

/-- Position of the decimal point counted from the first digit: the number is
`0.ddd * 10 ^ point`. -/
def point (d : Decimal) : Int :=
  (digitsOf d.digits).length + d.exponent

/-- Integral and fractional digits of the positional form. -/
def positional (d : Decimal) : List Char × List Char :=
  let digits := digitsOf d.digits
  if d.point ≤ 0 then (['0'], List.replicate (-d.point).toNat '0' ++ digits)
  else
    let padded := digits ++ List.replicate d.exponent.toNat '0'
    (padded.take d.point.toNat, padded.drop d.point.toNat)

end Decimal

namespace Binary64

def signText (x : Binary64) : List Char :=
  if x.isNegative then ['-'] else []

/-- The plain form. -/
def plain (x : Binary64) : String :=
  if x.isNaN then "NaN"
  else if x.isInfinite then String.ofList (x.signText ++ "inf".toList)
  else if x.magnitudeBits = 0 then String.ofList (x.signText ++ ['0'])
  else
    match (Decimal.shortest .up x).positional with
    | (whole, []) => String.ofList (x.signText ++ whole)
    | (whole, fraction) => String.ofList (x.signText ++ whole ++ '.' :: fraction)

/-- Digits with an exponent, the point after the first digit. -/
def scientific (d : Decimal) : List Char :=
  let exponent := d.point - 1
  let mantissa := match Decimal.digitsOf d.digits with
    | first :: second :: rest => first :: '.' :: second :: rest
    | digits => digits
  mantissa ++ ['e', if exponent < 0 then '-' else '+'] ++ Decimal.digitsOf exponent.natAbs

/-- The JSON form of a finite double. -/
def jsonNumber (x : Binary64) : List Char :=
  if x.magnitudeBits = 0 then x.signText ++ ['0', '.', '0']
  else
    let d := Decimal.shortest .even x
    if -5 < d.point ∧ d.point ≤ 16 then
      match d.positional with
      | (whole, []) => x.signText ++ whole ++ ['.', '0']
      | (whole, fraction) => x.signText ++ whole ++ '.' :: fraction
    else x.signText ++ scientific d

end Binary64

end RowScript
