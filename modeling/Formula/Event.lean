import Formula.Numeric.Style
import Formula.Role
import Formula.Value

/-!
# What happens in an evaluation

An evaluation leaves its events in the order in which they happen.  Those that
the log shows have a line; reading the end of the text, and entering and leaving
an expression, has none.
-/

namespace Formula

inductive Event where
  /-- The evaluation of a formula starts. -/
  | started (input : String)
  /-- A token is read. -/
  | scanned (token : Token)
  /-- The end of the text is read. -/
  | ended (position : Nat)
  /-- Reading from a place on finds a character with which no token starts. -/
  | strayed (cursor : Nat)
  /-- An expression starts, as deep as is said. -/
  | entered (depth : Nat)
  /-- An expression ends, with or without a value. -/
  | exited (depth : Nat)
  /-- A token opens an expression. -/
  | opened (rule : Opening) (token : Token)
  /-- A token joins the value on its left to what follows. -/
  | joined (rule : Joining) (token : Token) (left : Value)
  /-- A function is applied. -/
  | applied (name : String) (argument result : Float)
  /-- The formula has a value. -/
  | finished (input : String) (result : Float)
  deriving DecidableEq, Repr

inductive Level where
  | debug
  | trace
  deriving DecidableEq, Repr

namespace Level

def label : Level → String
  | .debug => "DEBUG"
  | .trace => "TRACE"

end Level

namespace Event

open Numeric (Style)

/-- The line of an event in the log, if it has one.  Behind the offset of a stray character
the log goes on with `: {err}`, what the grammar's parser says of it, which is left out here. -/
def line? : Event → Option (Level × String)
  | .started input => some (.debug, "Evaluating expression: " ++ input)
  | .scanned token =>
      some (.trace, "Token " ++ token.kind.label ++ " " ++ Text.quote token.text ++ " at "
        ++ toString token.position)
  | .strayed cursor => some (.trace, "No token rule matches at " ++ toString cursor)
  | .ended _ | .entered _ | .exited _ => none
  | .opened rule token => some (.trace, "Prefix " ++ rule.label ++ " on " ++ Text.quote token.text)
  | .joined rule _ left => some (.trace, "Infix " ++ rule.label ++ " on " ++ left.describe)
  | .applied name argument result =>
      some (.trace, name ++ "(" ++ Style.plain.render argument ++ ") = "
        ++ Style.plain.render result)
  | .finished input result =>
      some (.debug, "Result of " ++ input ++ ": " ++ Style.plain.render result)

end Event

def log (events : List Event) : List (Level × String) :=
  events.filterMap Event.line?

end Formula
