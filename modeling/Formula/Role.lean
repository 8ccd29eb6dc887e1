import Formula.Operator
import Formula.Token

/-!
# The roles of tokens in expressions

Each kind of token has a power and two rules: how it opens an expression, and
how it joins the expression on its left to what follows.

| kind               | power | opens    | joins               |
|--------------------|-------|----------|---------------------|
| decimal, integer   | 1000  | literal  |                     |
| name               | 1000  | name     |                     |
| `+`                | 10    |          | sum                 |
| `-`                | 10    | negation | difference          |
| `*`, `/`           | 20    |          | product, quotient   |
| `^`                | 30    |          | power, to the right |
| `(`                | 50    | group    | call                |
| `)`, end of input  | 0     |          |                     |
-/

namespace Formula

/-- How a token opens an expression. -/
inductive Opening where
  | literal
  | name
  | negate
  | group
  deriving DecidableEq, Repr

namespace Opening

def label : Opening → String
  | .literal => "Literal"
  | .name => "Name"
  | .negate => "Negate"
  | .group => "Group"

end Opening

/-- How a token joins the expression on its left to what follows. -/
inductive Joining where
  | binary (operator : Operator)
  | call
  deriving DecidableEq, Repr

namespace Joining

def label : Joining → String
  | .binary operator => "Binary(" ++ operator.label ++ ")"
  | .call => "Call"

end Joining

structure Role where
  power : Nat
  opens : Option Opening
  joins : Option Joining
  deriving DecidableEq, Repr

def Kind.role : Kind → Role
  | .decimal | .integer => ⟨1000, some .literal, none⟩
  | .name => ⟨1000, some .name, none⟩
  | .plus => ⟨10, none, some (.binary .add)⟩
  | .minus => ⟨10, some .negate, some (.binary .subtract)⟩
  | .star => ⟨20, none, some (.binary .multiply)⟩
  | .slash => ⟨20, none, some (.binary .divide)⟩
  | .caret => ⟨30, none, some (.binary .power)⟩
  | .openParen => ⟨50, some .group, some .call⟩
  | .closeParen | .endOfInput => ⟨0, none, none⟩

end Formula
