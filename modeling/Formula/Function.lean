/-!
# Functions of one number

A function may be recorded when it is applied.  The standard functions are
recorded under their own names, whatever name they are registered under.
-/

namespace Formula

structure UnaryFunction where
  apply : Float → Float
  /-- The name under which its applications are recorded, if they are. -/
  label : Option String

inductive StandardFunction where
  | sin
  | cos
  | tan
  | sqrt
  | exp
  deriving DecidableEq, Repr

namespace StandardFunction

def name : StandardFunction → String
  | .sin => "sin"
  | .cos => "cos"
  | .tan => "tan"
  | .sqrt => "sqrt"
  | .exp => "exp"

def apply : StandardFunction → Float → Float
  | .sin => Float.sin
  | .cos => Float.cos
  | .tan => Float.tan
  | .sqrt => Float.sqrt
  | .exp => Float.exp

/-- The function, recorded under its own name wherever it is registered. -/
def toUnary (function : StandardFunction) : UnaryFunction :=
  ⟨function.apply, some function.name⟩

def trigonometric : List StandardFunction :=
  [.sin, .cos, .tan]

def exponential : List StandardFunction :=
  [.sqrt, .exp]

def ofName? (name : String) : Option StandardFunction :=
  (trigonometric ++ exponential).find? fun function => function.name = name

end StandardFunction

end Formula
