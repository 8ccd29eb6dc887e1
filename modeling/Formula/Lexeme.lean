import Formula.Text.Alphabetic
import Formula.Token

/-!
# Lexemes

The first character of a text decides whether the token there is a number, a
name or a symbol.  Numbers and names take as many characters as they can.  A
point belongs to a number only between two digits.
-/

namespace Formula

/-- A token's kind and characters, and the characters that follow it. -/
structure Lexeme where
  kind : Kind
  text : List Char
  rest : List Char
  deriving DecidableEq, Repr

namespace Lexeme

def symbol? : Char → Option Kind
  | '+' => some .plus
  | '-' => some .minus
  | '*' => some .star
  | '/' => some .slash
  | '^' => some .caret
  | '(' => some .openParen
  | ')' => some .closeParen
  | _ => none

/-- The digits in front, with a point and more digits if a digit follows the point. -/
def number (text : List Char) : Lexeme :=
  match text.dropWhile Char.isDigit with
  | '.' :: digit :: rest =>
      if digit.isDigit then
        ⟨.decimal, text.takeWhile Char.isDigit ++ '.' :: (digit :: rest).takeWhile Char.isDigit,
          (digit :: rest).dropWhile Char.isDigit⟩
      else
        ⟨.integer, text.takeWhile Char.isDigit, '.' :: digit :: rest⟩
  | rest => ⟨.integer, text.takeWhile Char.isDigit, rest⟩

def name (text : List Char) : Lexeme :=
  ⟨.name, text.takeWhile Text.isAlphabetic, text.dropWhile Text.isAlphabetic⟩

/-- The token in front, by its first character. -/
def ofText? : List Char → Option Lexeme
  | [] => none
  | c :: rest =>
      if c.isDigit then
        some (number (c :: rest))
      else if Text.isAlphabetic c then
        some (name (c :: rest))
      else
        (symbol? c).map fun kind => ⟨kind, [c], rest⟩

theorem number_text_append_rest (text : List Char) :
    (number text).text ++ (number text).rest = text := by
  have hsplit := List.takeWhile_append_dropWhile (p := Char.isDigit) (l := text)
  unfold number
  split
  · rename_i digit rest hrest
    rw [hrest] at hsplit
    split
    · rw [List.append_assoc, List.cons_append, List.takeWhile_append_dropWhile]
      exact hsplit
    · exact hsplit
  · exact hsplit

theorem number_text_ne_nil {c : Char} (hdigit : c.isDigit = true) (rest : List Char) :
    (number (c :: rest)).text ≠ [] := by
  unfold number
  split
  · split <;> simp [hdigit]
  · simp [hdigit]

theorem text_append_rest_of_ofText? {text : List Char} {lexeme : Lexeme}
    (h : ofText? text = some lexeme) : lexeme.text ++ lexeme.rest = text := by
  cases text with
  | nil => simp [ofText?] at h
  | cons c rest =>
      simp only [ofText?] at h
      split at h
      · cases h
        exact number_text_append_rest _
      · split at h
        · cases h
          exact List.takeWhile_append_dropWhile
        · obtain ⟨kind, _, rfl⟩ := Option.map_eq_some_iff.mp h
          rfl

theorem text_ne_nil_of_ofText? {text : List Char} {lexeme : Lexeme}
    (h : ofText? text = some lexeme) : lexeme.text ≠ [] := by
  cases text with
  | nil => simp [ofText?] at h
  | cons c rest =>
      simp only [ofText?] at h
      split at h
      · rename_i hdigit
        cases h
        exact number_text_ne_nil hdigit rest
      · split at h
        · rename_i halphabetic
          cases h
          simp [name, halphabetic]
        · obtain ⟨kind, _, rfl⟩ := Option.map_eq_some_iff.mp h
          simp

end Lexeme

end Formula
