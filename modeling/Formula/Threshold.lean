import Formula.Operator

/-!
# Thresholds

An expression is extended by the tokens whose power its threshold admits, and
ends before the first other one.
-/

namespace Formula

/-- The powers with which a token may extend an expression. -/
structure Threshold where
  power : Nat
  /-- Is the power itself enough? -/
  inclusive : Bool
  deriving DecidableEq, Repr

namespace Threshold

def above (power : Nat) : Threshold :=
  ⟨power, false⟩

def atLeast (power : Nat) : Threshold :=
  ⟨power, true⟩

/-- Every token that joins at all. -/
def lowest : Threshold :=
  above 0

/-- What may extend the right operand of an operator: an equal one only if it is
to be applied first. -/
def rightOperand (power : Nat) : Associativity → Threshold
  | .left => above power
  | .right => atLeast power

def admits (threshold : Threshold) (power : Nat) : Bool :=
  threshold.power < power ∨ (threshold.inclusive ∧ power = threshold.power)

end Threshold

end Formula
