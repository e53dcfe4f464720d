import RowScript.Decimal.Numeral
import RowScript.Json.Error

/-!
JSON numbers. A number without fraction and exponent is an integer if it fits a
signed or unsigned word, and zero with a sign is a double. Other numbers are
doubles, computed the short way: as many digits as fit an unsigned word, times
or divided by one power of ten. Each of the two steps rounds, so with many
digits the result may be a neighbour of the nearest double.
-/

namespace RowScript.Json

inductive Number where
  | integer (n : Int)
  | float (x : Binary64)
deriving DecidableEq

def Number.found : Number → Found
  | integer n => .integer n
  | float x => .float x

def maxSignificand : Nat := Nat.pow 2 64 - 1

/-- Digits collected so far, and the power of ten they are to be scaled by. -/
structure Scaled where
  significand : Nat
  exponent : Int
deriving DecidableEq

/-- Collect digits in front of the point. From the first digit that does not fit,
digits only count for the exponent. -/
def Scaled.addWhole (s : Scaled) : List Char → Scaled
  | [] => s
  | c :: rest =>
    let next := s.significand * 10 + Numeral.natOf [c]
    if maxSignificand < next then ⟨s.significand, s.exponent + (rest.length + 1)⟩
    else Scaled.addWhole ⟨next, s.exponent⟩ rest

/-- Collect digits behind the point, up to the first that does not fit. -/
def Scaled.addFraction (s : Scaled) : List Char → Scaled
  | [] => s
  | c :: rest =>
    let next := s.significand * 10 + Numeral.natOf [c]
    if maxSignificand < next then s
    else Scaled.addFraction ⟨next, s.exponent - 1⟩ rest

/-- A power of ten of at most 308. -/
def powerOfTen (exponent : Nat) : Binary64 :=
  .ofDecimal false 1 exponent

/-- A double of at most 64 bits times a power of ten, unless that is too large
for a double. Powers below the range are reached in strides; the second stride
ends at zero at the latest. -/
def scale : Nat → Binary64 → Int → Option Binary64
  | 0, x, _ => some x
  | strides + 1, x, exponent =>
    if exponent.natAbs ≤ 308 then
      if 0 ≤ exponent then
        let product := x.scaleUp (powerOfTen exponent.natAbs)
        if product.isFinite then some product else none
      else some (x.scaleDown (powerOfTen exponent.natAbs))
    else if x.magnitudeBits = 0 then some x
    else if 0 ≤ exponent then none
    else scale strides (x.scaleDown (powerOfTen 308)) (exponent + 308)

/-- The double that a numeral stands for, unless it is too large. -/
def Scaled.toFloat? (negative : Bool) (s : Scaled) : Option Binary64 :=
  scale 4 (.ofRatio negative s.significand 1) s.exponent

/-- The number that a numeral stands for, unless it is too large for a double. -/
def Number.ofNumeral? (n : Numeral) : Option Number :=
  let whole := Numeral.natOf n.whole
  match n.fraction, n.exponent with
  | none, none =>
    if n.negative then
      if whole = 0 then some (float (.zero true))
      else if whole ≤ Nat.pow 2 63 then some (integer (-(whole : Int)))
      else (Scaled.toFloat? true (Scaled.addWhole ⟨0, 0⟩ n.whole)).map float
    else if whole ≤ maxSignificand then some (integer whole)
    else (Scaled.toFloat? false (Scaled.addWhole ⟨0, 0⟩ n.whole)).map float
  | fraction, exponent =>
    let scaled := (Scaled.addWhole ⟨0, 0⟩ n.whole).addFraction (fraction.getD [])
    (Scaled.toFloat? n.negative ⟨scaled.significand, scaled.exponent + exponent.getD 0⟩).map float

/-- The error for a character that does not go on with a number. -/
def numberStop : List Char → Error
  | [] => .unfinished
  | _ => .malformed

/-- The digits of an integral part: a zero alone, or digits that do not start
with one. -/
def wholeDigits (text : List Char) : Except Error (List Char × List Char) :=
  match Numeral.takeDigits text with
  | ([], rest) => .error (numberStop rest)
  | ('0' :: _ :: _, _) => .error .malformed
  | (digits, rest) => .ok (digits, rest)

/-- The digits behind a point, if there is one. -/
def fractionDigits : List Char → Except Error (Option (List Char) × List Char)
  | '.' :: text =>
    match Numeral.takeDigits text with
    | ([], rest) => .error (numberStop rest)
    | (digits, rest) => .ok (some digits, rest)
  | text => .ok (none, text)

/-- The exponent, if there is a letter for one. -/
def exponentPart : List Char → Except Error (Option Int × List Char)
  | 'e' :: text | 'E' :: text =>
    let (negative, behindSign) := Numeral.takeSign text
    match Numeral.takeDigits behindSign with
    | ([], rest) => .error (numberStop rest)
    | (digits, rest) => .ok (some (Numeral.signed negative (Numeral.natOf digits)), rest)
  | text => .ok (none, text)

/-- A numeral without plus sign, and what follows it. -/
def numeral (text : List Char) : Except Error (Numeral × List Char) :=
  let (negative, behindSign) := match text with
    | '-' :: rest => (true, rest)
    | rest => (false, rest)
  match wholeDigits behindSign with
  | .error e => .error e
  | .ok (whole, behindWhole) =>
    match fractionDigits behindWhole with
    | .error e => .error e
    | .ok (fraction, behindFraction) =>
      match exponentPart behindFraction with
      | .error e => .error e
      | .ok (exponent, rest) => .ok (⟨negative, whole, fraction, exponent⟩, rest)

/-- A number and what follows it. -/
def number (text : List Char) : Except Error (Number × List Char) :=
  match numeral text with
  | .error e => .error e
  | .ok (n, rest) =>
    match Number.ofNumeral? n with
    | none => .error .malformed
    | some x => .ok (x, rest)

end RowScript.Json
