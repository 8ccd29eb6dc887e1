import Formula.Error
import Formula.Numeric.Style

/-!
# Values of expressions

An expression is a number, or a name that still waits for its argument.
-/

namespace Formula

inductive Value where
  | number (x : Float)
  /-- A name that is no constant. -/
  | pending (name : String)
  deriving DecidableEq, Repr

namespace Value

def toNumber : Value → Except Error Float
  | .number x => .ok x
  | .pending name => .error (.unresolvedName name)

def describe : Value → String
  | .number x => "Number(" ++ Numeric.Style.marked.render x ++ ")"
  | .pending name => "PendingIdentifier(" ++ Text.quote name ++ ")"

end Value

end Formula
