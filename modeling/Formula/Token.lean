import Formula.Error

/-!
# Tokens

A token is a piece of a formula with its kind and the byte offset at which it
starts.  The end of a formula is a token of its own, without text.
-/

namespace Formula

inductive Kind where
  | decimal
  | integer
  | plus
  | minus
  | star
  | slash
  | caret
  | openParen
  | closeParen
  | name
  | endOfInput
  deriving DecidableEq, Repr

namespace Kind

def label : Kind → String
  | .decimal => "Decimal"
  | .integer => "Integer"
  | .plus => "Plus"
  | .minus => "Minus"
  | .star => "Star"
  | .slash => "Slash"
  | .caret => "Caret"
  | .openParen => "LParen"
  | .closeParen => "RParen"
  | .name => "Name"
  | .endOfInput => "EndOfInput"

def all : List Kind :=
  [.decimal, .integer, .plus, .minus, .star, .slash, .caret, .openParen, .closeParen, .name,
   .endOfInput]

def ofLabel? (label : String) : Option Kind :=
  all.find? fun kind => kind.label = label

end Kind

structure Token where
  kind : Kind
  text : String
  /-- The byte offset of its first character. -/
  position : Nat
  deriving DecidableEq, Repr

namespace Token

def endOfInput (position : Nat) : Token :=
  ⟨.endOfInput, "", position⟩

/-- How a message names the token. -/
def display (token : Token) : String :=
  if token.kind = .endOfInput then "end of input" else token.text

def value (token : Token) : Except Error Float :=
  (Numeric.Literal.parse token.text).mapError .invalidLiteral

end Token

end Formula
