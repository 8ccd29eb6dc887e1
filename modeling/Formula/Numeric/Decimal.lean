import Formula.Numeric.Binary64

/-!
# Decimal numbers

A decimal number is a natural number of powers of ten.  It is what a numeral
denotes and what the text of a number is made of.
-/

namespace Formula.Numeric

/-- The number `digits * 10 ^ exponent`. -/
structure Decimal where
  digits : Nat
  exponent : Int
  deriving DecidableEq, Repr

namespace Decimal

/-- The bits of the binary magnitude nearest to a decimal number.

From `10 ^ 400` on every positive number is beyond the finite magnitudes, and
one below `10 ^ (-400)` rounds to zero, so larger powers of ten need not be
computed. -/
def nearestBits (x : Decimal) : Nat :=
  match x.exponent with
  | .ofNat up => Numeric.nearestBits (x.digits * Nat.pow 10 (min up 400) * Nat.pow 2 1074) 1
  | .negSucc down =>
      Numeric.nearestBits (x.digits * Nat.pow 2 1074)
        (Nat.pow 10 (min (down + 1) (400 + Nat.log2 x.digits + 1)))

def toFloat (negative : Bool) (x : Decimal) : Float :=
  .ofBits (.ofNat ((if negative then Nat.pow 2 63 else 0) + x.nearestBits))

end Decimal

end Formula.Numeric
