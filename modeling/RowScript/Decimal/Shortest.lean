import RowScript.Decimal.Binary64

/-!
The shortest decimal that reads back as a given double. The decimals that read
back fill an interval around the double, whose ends belong to it when the
significand is even. The coarsest power of ten with a multiple inside that
interval gives the fewest digits, and of its two multiples around the double
the nearer one is taken.
-/

namespace RowScript

/-- The number `digits * 10 ^ exponent`. -/
structure Decimal where
  digits : Nat
  exponent : Int
deriving DecidableEq

/-- Which neighbour stands for a double exactly half way between the two. -/
inductive TieRule where
  | up
  | even
deriving DecidableEq

namespace Decimal

/-- A double and the ends of its interval, in quarters of its unit, and the unit
in quarters as a fraction. -/
structure Neighbourhood where
  low : Nat
  value : Nat
  high : Nat
  closed : Bool
  numerator : Nat
  denominator : Nat

/-- Below a power of two the doubles lie twice as close, so there the lower end
is only half as far away. -/
def Neighbourhood.of (x : Binary64) : Neighbourhood where
  low := 4 * x.significand - (if x.significand = Nat.pow 2 52 ∧ x.unit ≠ 0 then 1 else 2)
  value := 4 * x.significand
  high := 4 * x.significand + 2
  closed := x.significand % 2 == 0
  numerator := Nat.pow 2 x.unit
  denominator := Nat.pow 2 1076

/-- Factors that bring multiples of `10 ^ exponent` and quarter units to a
common integer scale. -/
def Neighbourhood.scales (n : Neighbourhood) (exponent : Int) : Nat × Nat :=
  (Nat.pow 10 exponent.toNat * n.denominator, Nat.pow 10 (-exponent).toNat * n.numerator)

/-- The multiple of `10 ^ exponent` that reads back and is nearest to the
double, if there is one. -/
def Neighbourhood.onGrid? (n : Neighbourhood) (rule : TieRule) (exponent : Int) : Option Nat :=
  let (gridScale, quarterScale) := n.scales exponent
  let value := n.value * quarterScale
  let below := value / gridScale
  let above := below + 1
  let inside (multiple : Nat) : Bool :=
    let point := multiple * gridScale
    if n.closed then n.low * quarterScale ≤ point && point ≤ n.high * quarterScale
    else n.low * quarterScale < point && point < n.high * quarterScale
  let toBelow := value - below * gridScale
  let toAbove := above * gridScale - value
  match inside below, inside above with
  | false, false => none
  | true, false => some below
  | false, true => some above
  | true, true =>
    if toBelow < toAbove then some below
    else if toAbove < toBelow then some above
    else match rule with
      | .up => some above
      | .even => some (below + below % 2)

/-- The first grid with a hit, starting at `10 ^ exponent` and going to finer
ones. -/
def Neighbourhood.search (n : Neighbourhood) (rule : TieRule) : Nat → Int → Decimal
  | 0, exponent => ⟨n.value * (n.scales exponent).2 / (n.scales exponent).1, exponent⟩
  | attempts + 1, exponent =>
    match n.onGrid? rule exponent with
    | some digits => ⟨digits, exponent⟩
    | none => n.search rule attempts (exponent - 1)

/-- An exponent whose power of ten is above every decimal that reads back as the
double, and above by little. The constant is a little more than the decimal
logarithm of two. -/
def startExponent (x : Binary64) : Int :=
  ((x.magnitude.log2 + 2 : Int) - 1074) * 30103 / 100000 + 2

/-- The shortest decimal for the magnitude of a finite double other than zero.
Seventeen digits always suffice, which bounds the search. -/
def shortest (rule : TieRule) (x : Binary64) : Decimal :=
  (Neighbourhood.of x).search rule 24 (startExponent x)

end Decimal

end RowScript
