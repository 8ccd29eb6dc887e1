import Formula.Registry
import Formula.TokenStream

/-!
# Steps of an evaluation

An evaluation takes tokens from a stream, leaves events and may fail.
-/

namespace Formula

abbrev Evaluation := StateT TokenStream Run

namespace Evaluation

variable {α : Type}

def fail (error : Error) : Evaluation α :=
  fun _ => Run.fail error

def emit (event : Event) : Evaluation Unit :=
  StateT.lift (Run.emit event)

def peek : Evaluation Token :=
  fun stream => pure (stream.lookahead, stream)

def room : Evaluation Nat :=
  fun stream => pure (stream.room, stream)

/-- A call of the stream.  An error ends the evaluation, so nothing sees the stream after it. -/
def call (ask : TokenStream → Run α × TokenStream) : Evaluation α :=
  fun stream =>
    let (answer, after) := ask stream
    do
      let value ← answer
      pure (value, after)

def advance : Evaluation Token :=
  call TokenStream.advance

def unexpected (token : Token) : Evaluation α :=
  fail (.unexpectedToken token.display token.position)

def closeParen : Evaluation Unit := do
  if ← call (TokenStream.advanceIf .closeParen) then
    pure ()
  else
    let token ← peek
    fail (.unclosedParenthesis token.position)

/-- A value that has to be a number. -/
def number (value : Value) : Evaluation Float :=
  StateT.lift (Run.ofExcept value.toNumber)

/-- Mark where an expression starts and ends. -/
def within (depth : Nat) (body : Evaluation α) : Evaluation α :=
  fun stream => (body stream).between (.entered depth) (.exited depth)

def resolve (registry : Registry) (name : String) : Value :=
  match registry.constant? name with
  | some value => .number value
  | none => .pending name

/-- The result of a function, recorded if the function is. -/
def applyFunction (function : UnaryFunction) (argument : Float) : Evaluation Float := do
  let result := function.apply argument
  match function.label with
  | some name => emit (.applied name argument result)
  | none => pure ()
  pure result

end Evaluation

end Formula
