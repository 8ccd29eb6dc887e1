/-!
# Operators

The operations on two numbers, and which of two equal ones in a row comes first.
-/

namespace Formula

/-- Which of two equal operators in a row is applied first. -/
inductive Associativity where
  | left
  | right
  deriving DecidableEq, Repr

namespace Associativity

def label : Associativity → String
  | .left => "Left"
  | .right => "Right"

end Associativity

inductive Operator where
  | add
  | subtract
  | multiply
  | divide
  | power
  deriving DecidableEq, Repr

namespace Operator

def apply (operator : Operator) (left right : Float) : Float :=
  match operator with
  | .add => left + right
  | .subtract => left - right
  | .multiply => left * right
  | .divide => left / right
  | .power => Float.pow left right

def associativity : Operator → Associativity
  | .power => .right
  | _ => .left

def label : Operator → String
  | .add => "Add"
  | .subtract => "Subtract"
  | .multiply => "Multiply"
  | .divide => "Divide"
  | .power => "Power"

def all : List Operator :=
  [.add, .subtract, .multiply, .divide, .power]

def ofLabel? (label : String) : Option Operator :=
  all.find? fun operator => operator.label = label

end Operator

end Formula
