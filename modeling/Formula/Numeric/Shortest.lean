import Formula.Numeric.Decimal

/-!
# The shortest decimal that reads back

Reading a decimal gives the nearest binary number, so each binary number is read
back from an interval of decimals around it.  Of the multiples of a power of ten
only the two neighbours of the number matter: if any multiple lies in the
interval, one of them does.  The search tries the powers of ten from coarse to
fine and stops at the first that has a neighbour in the interval.
-/

namespace Formula.Numeric

/-- The decimals that read back as one magnitude, and the magnitude itself, as
quotients with a common denominator. -/
structure RoundingInterval where
  low : Nat
  value : Nat
  high : Nat
  denominator : Nat
  /-- Do the two ends read back as the magnitude too? -/
  closed : Bool
  deriving Repr

namespace RoundingInterval

/-- The interval around a positive magnitude, in quarters of a unit.

It reaches half way to both neighbours; below a power of two the neighbour is
half as far away.  A half rounds to the even significand. -/
def around (x : Magnitude) : RoundingInterval :=
  let below := if x.significand = Nat.pow 2 52 ∧ 0 < x.scale then 1 else 2
  { low := (4 * x.significand - below) * Nat.pow 2 x.scale
    value := 4 * x.significand * Nat.pow 2 x.scale
    high := (4 * x.significand + 2) * Nat.pow 2 x.scale
    denominator := 4 * Nat.pow 2 1074
    closed := x.significand % 2 = 0 }

/-- The interval measured in units of `10 ^ power`. -/
def inUnitsOf (interval : RoundingInterval) : Int → RoundingInterval
  | .ofNat up => { interval with denominator := interval.denominator * Nat.pow 10 up }
  | .negSucc down =>
      let factor := Nat.pow 10 (down + 1)
      { interval with
        low := interval.low * factor
        value := interval.value * factor
        high := interval.high * factor }

def contains (interval : RoundingInterval) (n : Nat) : Bool :=
  let scaled := n * interval.denominator
  if interval.closed then interval.low ≤ scaled ∧ scaled ≤ interval.high
  else interval.low < scaled ∧ scaled < interval.high

/-- The natural number in the interval that is nearest to its value, if any is
there; half way between two the greater one. -/
def nearest? (interval : RoundingInterval) : Option Nat :=
  let down := interval.value / interval.denominator
  let twice := 2 * (interval.value % interval.denominator)
  match interval.contains down, interval.contains (down + 1) with
  | true, true => some (if twice < interval.denominator then down else down + 1)
  | true, false => some down
  | false, true => some (down + 1)
  | false, false => none

/-- Search a number of grids, the multiples of `10 ^ power` first. -/
def search (interval : RoundingInterval) : Nat → Int → Decimal
  | 0, power => ⟨(interval.inUnitsOf power).value / (interval.inUnitsOf power).denominator, power⟩
  | grids + 1, power =>
      match (interval.inUnitsOf power).nearest? with
      | some digits => ⟨digits, power⟩
      | none => search interval grids (power - 1)

end RoundingInterval

/-- The decimal with the fewest digits that reads back as a positive magnitude,
and of those the nearest to it.

The search starts at a power of ten above the magnitude.  Seventeen digits tell
all magnitudes apart, so it ends before its twenty grids are tried. -/
def Magnitude.shortest (x : Magnitude) : Decimal :=
  let binaryExponent : Int := Nat.log2 x.units - 1074
  (RoundingInterval.around x).search 20 ((binaryExponent + 1) * 30103 / 100000 + 1)

end Formula.Numeric
