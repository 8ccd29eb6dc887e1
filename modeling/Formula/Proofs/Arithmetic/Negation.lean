import Formula.Operator
import Mathlib

/-!
# Minus signs in front of products

A binary number is rounded without regard to its sign, and its sign is packed
apart from the rest.  So a minus sign in front of a product or a quotient says
the same as one in front of its first operand, for all numbers, infinities and
what is no number.
-/

namespace Formula

open Float.Model (Format UnpackedFloat)

namespace Numeric

/-! ## Signs and rounding -/

theorem neg_sign_mul (first second : UnpackedFloat.Sign) :
    -first * second = -(first * second) := by
  cases first <;> cases second <;> rfl

theorem neg_sign_div (first second : UnpackedFloat.Sign) :
    -first / second = -(first / second) := by
  cases first <;> cases second <;> rfl

theorem roundWithAccuracy_neg (format : Format) (sign : UnpackedFloat.Sign) (mantissa : Nat)
    (exponent : Int) (accuracy : UnpackedFloat.Accuracy) :
    UnpackedFloat.roundWithAccuracy format (-sign) mantissa exponent accuracy =
      (UnpackedFloat.roundWithAccuracy format sign mantissa exponent accuracy).neg := by
  simp only [UnpackedFloat.roundWithAccuracy]
  split <;> rfl

theorem unpacked_neg_mul (format : Format) (x y : UnpackedFloat) :
    UnpackedFloat.mul format x.neg y = (UnpackedFloat.mul format x y).neg := by
  cases x <;> cases y <;>
    simp only [UnpackedFloat.neg, UnpackedFloat.mul, neg_sign_mul, roundWithAccuracy_neg]

theorem unpacked_neg_div (format : Format) (x y : UnpackedFloat) :
    UnpackedFloat.div format x.neg y = (UnpackedFloat.div format x y).neg := by
  cases x <;> cases y <;>
    simp only [UnpackedFloat.neg, UnpackedFloat.div, neg_sign_div, roundWithAccuracy_neg]

/-! ## Packing -/

theorem unpack_packComponents_neg (format : Format) (sign : UnpackedFloat.Sign)
    (exponent : BitVec format.exponentBits)
    (mantissa : BitVec format.mantissaBitsWithoutImplicit) :
    UnpackedFloat.unpack format (UnpackedFloat.packComponents format (-sign) exponent mantissa) =
      (UnpackedFloat.unpack format
        (UnpackedFloat.packComponents format sign exponent mantissa)).neg := by
  simp only [UnpackedFloat.unpack, UnpackedFloat.unpackExponent_packComponents,
    UnpackedFloat.unpackMantissa_packComponents, UnpackedFloat.unpackSign_packComponents,
    UnpackedFloat.Sign.ofBitVec_toBitVec]
  split
  · split <;> rfl
  · split
    · split <;> rfl
    · rfl

theorem unpack_pack_neg (x : UnpackedFloat) :
    UnpackedFloat.unpack .binary64 (UnpackedFloat.pack .binary64 x.neg) =
      (UnpackedFloat.unpack .binary64 (UnpackedFloat.pack .binary64 x)).neg := by
  cases x with
  | notANumber =>
      simp only [UnpackedFloat.neg, UnpackedFloat.pack]
      rw [UnpackedFloat.unpack_packedNaN]
  | infinity sign => exact unpack_packComponents_neg .binary64 sign _ _
  | zero sign => exact unpack_packComponents_neg .binary64 sign _ _
  | finite sign mantissa exponent hpositive =>
      simp only [UnpackedFloat.neg, UnpackedFloat.pack]
      split
      · exact unpack_packComponents_neg .binary64 sign _ _
      · split <;> exact unpack_packComponents_neg .binary64 sign _ _

theorem pack_unpack (x : Float.Model) : Float.Model.pack x.unpack = x := by
  cases x with
  | mk bits hvalid =>
      simp only [Float.Model.pack, Float.Model.unpack,
        UnpackedFloat.pack_unpack_of_valid hvalid]

/-- Whatever number a result is packed as, its negation is packed as the negation
of that number. -/
theorem neg_pack (x : UnpackedFloat) : -Float.Model.pack x = Float.Model.pack x.neg := by
  have hunpack : (Float.Model.pack x.neg).unpack = (Float.Model.pack x).unpack.neg :=
    unpack_pack_neg x
  calc -Float.Model.pack x
      = Float.Model.pack (Float.Model.pack x).unpack.neg := rfl
    _ = Float.Model.pack (Float.Model.pack x.neg).unpack := by rw [hunpack]
    _ = Float.Model.pack x.neg := pack_unpack _

theorem unpack_neg (x : Float.Model) : (-x).unpack = x.unpack.neg := by
  have hneg : (Float.Model.pack x.unpack.neg).unpack = (Float.Model.pack x.unpack).unpack.neg :=
    unpack_pack_neg x.unpack
  rw [pack_unpack] at hneg
  exact hneg

end Numeric

open Numeric

/-- A minus sign in front of a product or quotient belongs to its first operand. -/
theorem Operator.apply_neg {operator : Operator}
    (hoperator : operator = .multiply ∨ operator = .divide) (x y : Float) :
    operator.apply (-x) y = -operator.apply x y := by
  apply congrArg Float.ofModel
  rcases hoperator with rfl | rfl
  · show Float.Model.pack (UnpackedFloat.mul .binary64 (-x.toModel).unpack _) = _
    rw [unpack_neg, unpacked_neg_mul]
    exact (neg_pack _).symm
  · show Float.Model.pack (UnpackedFloat.div .binary64 (-x.toModel).unpack _) = _
    rw [unpack_neg, unpacked_neg_div]
    exact (neg_pack _).symm

end Formula
