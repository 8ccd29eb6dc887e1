import Formula.Numeric.Decimal

/-!
# Numerals

The text of a number: an optional sign, then either digits with at most one
point among or around them and an optional power of ten, or a word for an
infinity or for no number.  The value is the nearest binary one.
-/

namespace Formula.Numeric

inductive LiteralError where
  | empty
  | malformed
  deriving DecidableEq, Repr

namespace LiteralError

def message : LiteralError → String
  | .empty => "cannot parse float from empty string"
  | .malformed => "invalid float literal"

end LiteralError

namespace Literal

/-- The number that decimal digits denote, the most significant first. -/
def digitsValue (digits : List Char) : Nat :=
  digits.foldl (fun value digit => 10 * value + (digit.toNat - '0'.toNat)) 0

/-- An optional sign in front: whether it is a minus, and what follows. -/
def splitSign : List Char → Bool × List Char
  | '-' :: rest => (true, rest)
  | '+' :: rest => (false, rest)
  | text => (false, text)

/-- The power of ten at the end of a numeral; the empty text stands for zero. -/
def exponent? : List Char → Option Int
  | [] => some 0
  | mark :: rest =>
      let (negative, digits) := splitSign rest
      if (mark = 'e' ∨ mark = 'E') ∧ digits ≠ [] ∧ digits.all Char.isDigit then
        let power : Int := digitsValue digits
        some (if negative then -power else power)
      else
        none

/-- Digits, a point and more digits, of which the point and either run of
digits may be left out, and a power of ten. -/
def decimal? (text : List Char) : Option Decimal :=
  let whole := text.takeWhile Char.isDigit
  let afterWhole := text.dropWhile Char.isDigit
  let (fraction, afterDigits) :=
    match afterWhole with
    | '.' :: rest => (rest.takeWhile Char.isDigit, rest.dropWhile Char.isDigit)
    | _ => ([], afterWhole)
  if whole ++ fraction = [] then
    none
  else
    (exponent? afterDigits).map fun power =>
      ⟨digitsValue (whole ++ fraction), power - fraction.length⟩

/-- The values that have a word, in any case of its letters. -/
def word? (negative : Bool) (text : List Char) : Option Float :=
  let word := text.map Char.toLower
  if word = "inf".toList ∨ word = "infinity".toList then
    some (if negative then -(1 / 0) else 1 / 0)
  else if word = "nan".toList then
    some (0 / 0)
  else
    none

def parse (text : String) : Except LiteralError Float :=
  if text.toList = [] then
    .error .empty
  else
    let (negative, body) := splitSign text.toList
    match decimal? body with
    | some decimal => .ok (decimal.toFloat negative)
    | none =>
        match word? negative body with
        | some value => .ok value
        | none => .error .malformed

end Literal

end Formula.Numeric
