import Formula.Evaluation.Expression

/-!
# The value of a formula

A formula has a value if it is one expression and that expression is a number.
-/

namespace Formula

def defaultLimit : Nat :=
  256

def run (registry : Registry) (limit : Nat) (input : String) : Run Float := do
  Run.emit (.started input)
  let stream ← TokenStream.ofText input
  let (result, _) ← Evaluation.whole registry limit stream
  Run.emit (.finished input result)
  pure result

/-- The value of a formula whose expressions are nested no deeper than the limit. -/
def evaluateWithin (registry : Registry) (limit : Nat) (input : String) : Except Error Float :=
  (run registry limit input).outcome

def evaluate (input : String) : Except Error Float :=
  evaluateWithin .standard defaultLimit input

def evaluateAll (registry : Registry) (inputs : List String) : List (Except Error Float) :=
  inputs.map (evaluateWithin registry defaultLimit)

end Formula
