import Formula.Evaluate
import Formula.Proofs.Spelling

/-!
# Formulas as trees

A tree is a formula without its text.  It is printed with parentheses around
each part of it that is more than a token, and around each leaf as well.  Its
value is found by recursion; what is found first decides which error is found.
-/

namespace Formula

/-- A numeral that can be the text of a token. -/
inductive Numeral where
  | integer (digits : List Char) (hdigits : RunOf Char.isDigit digits)
  | decimal (whole fraction : List Char) (hwhole : RunOf Char.isDigit whole)
      (hfraction : RunOf Char.isDigit fraction)

namespace Numeral

def kind : Numeral → Kind
  | .integer _ _ => .integer
  | .decimal _ _ _ _ => .decimal

def characters : Numeral → List Char
  | .integer digits _ => digits
  | .decimal whole fraction _ _ => whole ++ '.' :: fraction

def toDecimal : Numeral → Numeric.Decimal
  | .integer digits _ => ⟨Numeric.Literal.digitsValue digits, 0⟩
  | .decimal whole fraction _ _ =>
      ⟨Numeric.Literal.digitsValue (whole ++ fraction), -fraction.length⟩

def value (numeral : Numeral) : Float :=
  numeral.toDecimal.toFloat false

end Numeral

structure Word where
  letters : List Char
  alphabetic : RunOf Text.isAlphabetic letters

def Word.ofLetter (letter : Char) (h : Text.isAlphabetic letter = true) : Word :=
  ⟨[letter], by simp [RunOf, h]⟩

inductive Tree where
  | literal (numeral : Numeral)
  | name (word : Word)
  | negate (operand : Tree)
  | binary (operator : Operator) (left right : Tree)
  | call (head argument : Tree)

def Operator.sign : Operator → String
  | .add => "+"
  | .subtract => "-"
  | .multiply => "*"
  | .divide => "/"
  | .power => "^"

namespace Tree

/-- The text of a tree, with parentheses around all its parts. -/
def print : Tree → String
  | .literal numeral => String.ofList numeral.characters
  | .name word => String.ofList word.letters
  | .negate operand => "-(" ++ operand.print ++ ")"
  | .binary operator left right =>
      "(" ++ left.print ++ ")" ++ operator.sign ++ "(" ++ right.print ++ ")"
  | .call head argument => "(" ++ head.print ++ ")((" ++ argument.print ++ "))"

/-- How many operations lie on top of each other. -/
def height : Tree → Nat
  | .literal _ => 0
  | .name _ => 0
  | .negate operand => operand.height + 1
  | .binary _ left right => max left.height right.height + 1
  | .call head argument => max head.height argument.height + 1

/-- The value of a tree.  An operand has to be a number before anything on its
right is evaluated.  A head has to be a name before its argument is evaluated; it
has to be a function, and the argument a number, only after that. -/
def evaluate (registry : Registry) : Tree → Except Error Value
  | .literal numeral => .ok (.number numeral.value)
  | .name word => .ok (Evaluation.resolve registry (String.ofList word.letters))
  | .negate operand => do
      let x ← (← operand.evaluate registry).toNumber
      .ok (.number (-x))
  | .binary operator left right => do
      let x ← (← left.evaluate registry).toNumber
      let y ← (← right.evaluate registry).toNumber
      .ok (.number (operator.apply x y))
  | .call head argument => do
      match ← head.evaluate registry with
      | .number x => .error (.notAFunction (Numeric.Style.plain.render x) 0)
      | .pending text =>
          let value ← argument.evaluate registry
          match registry.function? text with
          | none => .error (.unknownFunction text)
          | some function =>
              let x ← value.toNumber
              .ok (.number (function.apply x))

end Tree

/-! ## Numerals denote numbers -/

namespace Numeric.Literal

theorem splitSign_of_isDigit {c : Char} (rest : List Char) (h : c.isDigit = true) :
    splitSign (c :: rest) = (false, c :: rest) := by
  unfold splitSign
  split
  · rename_i heq
    cases heq
    cases h
  · rename_i heq
    cases heq
    cases h
  · rfl

theorem decimal?_integer {digits : List Char} (h : RunOf Char.isDigit digits) :
    decimal? digits = some ⟨digitsValue digits, 0⟩ := by
  have hend : EndsRun Char.isDigit [] := by simp [EndsRun]
  have htake := takeWhile_append_of_endsRun h.2 hend
  have hdrop := dropWhile_append_of_endsRun h.2 hend
  rw [List.append_nil] at htake hdrop
  simp [decimal?, htake, hdrop, h.1, exponent?]

theorem decimal?_decimal {whole fraction : List Char} (hwhole : RunOf Char.isDigit whole)
    (hfraction : RunOf Char.isDigit fraction) :
    decimal? (whole ++ '.' :: fraction) =
      some ⟨digitsValue (whole ++ fraction), -fraction.length⟩ := by
  have hpoint : EndsRun Char.isDigit ('.' :: fraction) := by
    intro _ hhead
    cases hhead
    decide
  have hend : EndsRun Char.isDigit [] := by simp [EndsRun]
  have htake := takeWhile_append_of_endsRun hfraction.2 hend
  have hdrop := dropWhile_append_of_endsRun hfraction.2 hend
  rw [List.append_nil] at htake hdrop
  simp [decimal?, takeWhile_append_of_endsRun hwhole.2 hpoint,
    dropWhile_append_of_endsRun hwhole.2 hpoint, htake, hdrop, hwhole.1, exponent?]

end Numeric.Literal

namespace Numeral

theorem spelled (numeral : Numeral) : Spelled numeral.kind numeral.characters := by
  cases numeral with
  | integer digits hdigits => exact .integer hdigits
  | decimal whole fraction hwhole hfraction => exact .decimal hwhole hfraction

theorem exists_characters_eq_cons (numeral : Numeral) :
    ∃ c rest, numeral.characters = c :: rest ∧ c.isDigit = true := by
  cases numeral with
  | integer digits hdigits =>
      obtain ⟨c, rest, rfl⟩ := List.exists_cons_of_ne_nil hdigits.1
      exact ⟨c, rest, rfl, hdigits.2 c List.mem_cons_self⟩
  | decimal whole fraction hwhole hfraction =>
      obtain ⟨c, rest, rfl⟩ := List.exists_cons_of_ne_nil hwhole.1
      exact ⟨c, rest ++ '.' :: fraction, rfl, hwhole.2 c List.mem_cons_self⟩

/-- The text of a numeral is read as its value. -/
theorem parse_characters (numeral : Numeral) :
    Numeric.Literal.parse (String.ofList numeral.characters) = .ok numeral.value := by
  have hdecimal : Numeric.Literal.decimal? numeral.characters = some numeral.toDecimal := by
    cases numeral with
    | integer digits hdigits => exact Numeric.Literal.decimal?_integer hdigits
    | decimal whole fraction hwhole hfraction =>
        exact Numeric.Literal.decimal?_decimal hwhole hfraction
  obtain ⟨c, rest, hcons, hdigit⟩ := numeral.exists_characters_eq_cons
  have hsign := Numeric.Literal.splitSign_of_isDigit rest hdigit
  rw [hcons] at hdecimal
  unfold Numeric.Literal.parse
  rw [String.toList_ofList, hcons, if_neg (List.cons_ne_nil c rest), hsign]
  simp only [hdecimal, value]

end Numeral

end Formula
