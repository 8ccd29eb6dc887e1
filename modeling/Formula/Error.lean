import Formula.Numeric.Literal
import Formula.Text.Quoted

/-!
# Why a formula has no value

Positions are byte offsets in the formula.  The message of an error tells it
apart from every other one: text that the formula brings in is quoted, or stands
at the end.
-/

namespace Formula

inductive Error where
  /-- No token starts at a character. -/
  | strayCharacter (text : String) (position : Nat)
  /-- A token stands where it can neither open nor join an expression. -/
  | unexpectedToken (token : String) (position : Nat)
  /-- An argument or a group does not end where its parenthesis should close. -/
  | unclosedParenthesis (position : Nat)
  /-- A name that is applied is no function. -/
  | unknownFunction (name : String)
  /-- A number is applied. -/
  | notAFunction (found : String) (position : Nat)
  /-- A name that is no constant is used as a number. -/
  | unresolvedName (name : String)
  /-- An expression lies within more expressions than are allowed. -/
  | nestedTooDeeply (limit : Nat)
  /-- The text of a token is no numeral. -/
  | invalidLiteral (cause : Numeric.LiteralError)
  deriving DecidableEq, Repr

namespace Error

open Text (quote)

def message : Error → String
  | .strayCharacter text position =>
      "unexpected character " ++ quote text ++ " at position " ++ toString position
  | .unexpectedToken token position =>
      "unexpected token " ++ quote token ++ " at position " ++ toString position
  | .unclosedParenthesis position =>
      "missing closing parenthesis at position " ++ toString position
  | .unknownFunction name =>
      "unrecognized function " ++ quote name
  | .notAFunction found position =>
      "expected a function name before '(' at position " ++ toString position
        ++ ", found " ++ found
  | .unresolvedName name =>
      "unresolved name " ++ quote name
  | .nestedTooDeeply limit =>
      "expression nested deeper than " ++ toString limit ++ " levels"
  | .invalidLiteral cause =>
      "invalid numeric literal: " ++ cause.message

end Error

end Formula
