/-!
# Binary floating-point numbers as exact multiples of the least one

Every finite magnitude of the 64-bit format is `significand * 2 ^ scale` times
the least positive magnitude `2 ^ (-1074)`.  With the scale chosen this way the
fields of the format are read and written by one formula, subnormal numbers
included: the bits below the sign are `scale * 2 ^ 52 + significand`.
-/

namespace Formula.Numeric

/-- A finite magnitude, in units of `2 ^ (-1074)`. -/
structure Magnitude where
  significand : Nat
  scale : Nat
  deriving DecidableEq, Repr

namespace Magnitude

def units (x : Magnitude) : Nat :=
  x.significand * Nat.pow 2 x.scale

/-- The bits below the sign.

A significand of `2 ^ 53`, which rounding up can produce, carries into the next
scale by itself. -/
def bits (x : Magnitude) : Nat :=
  x.scale * Nat.pow 2 52 + x.significand

end Magnitude

/-- The bits below the sign of an infinity: the least ones that are not finite. -/
def infiniteBits : Nat :=
  2047 * Nat.pow 2 52

inductive Binary64 where
  | nan
  | infinite (negative : Bool)
  | finite (negative : Bool) (magnitude : Magnitude)
  deriving DecidableEq, Repr

namespace Binary64

def ofBits (bits : Nat) : Binary64 :=
  let fraction := bits % Nat.pow 2 52
  let exponent := bits / Nat.pow 2 52 % Nat.pow 2 11
  let negative := decide (bits / Nat.pow 2 63 % 2 = 1)
  if exponent = 2047 then
    if fraction = 0 then .infinite negative else .nan
  else if exponent = 0 then
    .finite negative ⟨fraction, 0⟩
  else
    .finite negative ⟨Nat.pow 2 52 + fraction, exponent - 1⟩

def ofFloat (x : Float) : Binary64 :=
  ofBits x.toBits.toNat

end Binary64

/-- The quotient rounded to the nearest natural number, a half to the even one. -/
def roundQuotient (numerator denominator : Nat) : Nat :=
  let quotient := numerator / denominator
  let twice := 2 * (numerator % denominator)
  if denominator < twice ∨ (twice = denominator ∧ quotient % 2 = 1) then quotient + 1
  else quotient

/-- The bits of the magnitude nearest to a quotient of units, a half going to
the even significand.  The scale leaves 53 binary digits to the significand, or
as many as there are units. -/
def nearestBits (numerator denominator : Nat) : Nat :=
  let scale := Nat.log2 (numerator / denominator) - 52
  let magnitude : Magnitude := ⟨roundQuotient numerator (denominator * Nat.pow 2 scale), scale⟩
  min magnitude.bits infiniteBits

end Formula.Numeric
