import Formula.Proofs.Climbing

/-!
# The grammar of formulas

With the name of each symbol in short:

    E expression  ::=  T  |  E + T  |  E - T
    T term        ::=  Q  |  O  |  Q * O  |  Q / O
    Q product     ::=  F  |  Q * F  |  Q / F
    F factor      ::=  C  |  C ^ F
    O negative    ::=  - T  |  C ^ O
    C primary     ::=  number  |  constant  |  ( E )  |  N ( A )
    A argument    ::=  number  |  constant  |  ( E )  |  - T
    N head        ::=  function  |  ( N )

A negation takes all products and powers that follow it, so whatever ends in one
ends a term.  The nesting of a derivation counts the expressions within
expressions that it takes to evaluate it.
-/

namespace Formula

inductive Symbol where
  | expression
  | term
  | product
  | factor
  | negative
  | primary
  | argument
  deriving DecidableEq, Repr

/-- The rules with one symbol on their right. -/
inductive Chain : Symbol → Symbol → Prop
  | term : Chain .expression .term
  | product : Chain .term .product
  | negative : Chain .term .negative
  | factor : Chain .product .factor
  | primary : Chain .factor .primary

/-- The rules with an operator between two symbols on their right. -/
inductive Infix : Symbol → Symbol → Operator → Symbol → Prop
  | sum : Infix .expression .expression .add .term
  | difference : Infix .expression .expression .subtract .term
  | product : Infix .product .product .multiply .factor
  | quotient : Infix .product .product .divide .factor
  | productOfNegative : Infix .term .product .multiply .negative
  | quotientByNegative : Infix .term .product .divide .negative
  | power : Infix .factor .primary .power .factor
  | powerOfNegative : Infix .negative .primary .power .negative

def Operator.kind : Operator → Kind
  | .add => .plus
  | .subtract => .minus
  | .multiply => .star
  | .divide => .slash
  | .power => .caret

/-- A name that is no constant but a function, within any number of parentheses. -/
inductive Head (registry : Registry) : List Token → String → Nat → Prop
  | name {token : Token} (hkind : token.kind = .name)
      (hconstant : registry.constant? token.text = none)
      (hfunction : (registry.function? token.text).isSome) : Head registry [token] token.text 0
  | group {opening closing : Token} {tokens : List Token} {name : String} {nesting : Nat}
      (hopening : opening.kind = .openParen) (hclosing : closing.kind = .closeParen)
      (hinner : Head registry tokens name nesting) :
      Head registry (opening :: (tokens ++ [closing])) name (1 + nesting)

/-- The tokens derived from a symbol, their value and the nesting of the derivation. -/
inductive Derives (registry : Registry) : Symbol → List Token → Float → Nat → Prop
  | number {symbol : Symbol} {token : Token} {x : Float}
      (hsymbol : symbol = .primary ∨ symbol = .argument)
      (hkind : token.kind = .decimal ∨ token.kind = .integer) (hvalue : token.value = .ok x) :
      Derives registry symbol [token] x 0
  | constant {symbol : Symbol} {token : Token} {x : Float}
      (hsymbol : symbol = .primary ∨ symbol = .argument) (hkind : token.kind = .name)
      (hconstant : registry.constant? token.text = some x) : Derives registry symbol [token] x 0
  | group {symbol : Symbol} {opening closing : Token} {tokens : List Token} {x : Float}
      {nesting : Nat} (hsymbol : symbol = .primary ∨ symbol = .argument)
      (hopening : opening.kind = .openParen) (hclosing : closing.kind = .closeParen)
      (hinner : Derives registry .expression tokens x nesting) :
      Derives registry symbol (opening :: (tokens ++ [closing])) x (1 + nesting)
  | negation {symbol : Symbol} {minus : Token} {tokens : List Token} {x : Float} {nesting : Nat}
      (hsymbol : symbol = .negative ∨ symbol = .argument) (hminus : minus.kind = .minus)
      (hoperand : Derives registry .term tokens x nesting) :
      Derives registry symbol (minus :: tokens) (-x) (1 + nesting)
  | call {opening closing : Token} {head tokens : List Token} {name : String}
      {function : UnaryFunction} {x : Float} {headNesting nesting : Nat}
      (hhead : Head registry head name headNesting)
      (hfunction : registry.function? name = some function)
      (hopening : opening.kind = .openParen) (hclosing : closing.kind = .closeParen)
      (hargument : Derives registry .argument tokens x nesting) :
      Derives registry .primary (head ++ opening :: (tokens ++ [closing])) (function.apply x)
        (max headNesting (1 + nesting))
  | chain {symbol inner : Symbol} {tokens : List Token} {x : Float} {nesting : Nat}
      (hchain : Chain symbol inner) (hinner : Derives registry inner tokens x nesting) :
      Derives registry symbol tokens x nesting
  | binary {symbol left right : Symbol} {operator : Operator} {token : Token}
      {front back : List Token} {x y : Float} {leftNesting rightNesting : Nat}
      (hrule : Infix symbol left operator right) (htoken : token.kind = operator.kind)
      (hleft : Derives registry left front x leftNesting)
      (hright : Derives registry right back y rightNesting) :
      Derives registry symbol (front ++ token :: back) (operator.apply x y)
        (max leftNesting (1 + rightNesting))

/-! ## Powers -/

def Operator.strength (operator : Operator) : Nat :=
  operator.kind.role.power

namespace Symbol

/-- The power that a threshold has to admit for the loop to build the symbol. -/
def strength : Symbol → Nat
  | .expression => 10
  | .term | .product => 20
  | .factor | .negative => 30
  | .primary => 50
  | .argument => 0

/-- The greatest power with which a token can follow the symbol. -/
def follow : Symbol → Nat
  | .expression | .term | .negative | .argument => 10
  | .product | .factor => 20
  | .primary => 50

end Symbol

theorem Operator.role_kind (operator : Operator) :
    operator.kind.role.power = operator.strength ∧
      operator.kind.role.joins = some (.binary operator) := by
  cases operator <;> exact ⟨rfl, rfl⟩

def Operator.rightThreshold (operator : Operator) : Threshold :=
  .rightOperand operator.strength operator.associativity

theorem Threshold.admits_of_le {threshold : Threshold} {weak strong : Nat} (hle : weak ≤ strong)
    (h : threshold.admits weak = true) : threshold.admits strong = true := by
  simp only [admits, decide_eq_true_eq] at h ⊢
  rcases h with hlt | ⟨hinclusive, heq⟩
  · exact .inl (by omega)
  · rcases Nat.eq_or_lt_of_le hle with hsame | hlt
    · exact .inr ⟨hinclusive, by omega⟩
    · exact .inl (by omega)

theorem Chain.strength_le {symbol inner : Symbol} (h : Chain symbol inner) :
    symbol.strength ≤ inner.strength ∧ symbol.follow ≤ inner.follow ∧ symbol ≠ .argument := by
  cases h <;> decide

theorem Infix.ne_argument {symbol left right : Symbol} {operator : Operator}
    (h : Infix symbol left operator right) : symbol ≠ .argument := by
  rintro rfl
  cases h

/-- The operator of a rule is as strong as its symbol.  It may follow the left
operand, and its right operand lets follow whatever may follow the whole. -/
theorem Infix.strength {symbol left right : Symbol} {operator : Operator}
    (h : Infix symbol left operator right) :
    symbol.strength = operator.strength ∧ symbol.strength ≤ left.strength ∧
      operator.strength ≤ left.follow ∧ symbol.follow ≤ right.follow ∧
      operator.rightThreshold.admits right.strength = true ∧
      operator.rightThreshold.admits symbol.follow = false := by
  cases h <;> decide

/-- A token that joins comes next only if its power is at most the given one. -/
def TokenStream.LetsFollow (stream : TokenStream) (power : Nat) : Prop :=
  ∀ rule, stream.lookahead.kind.role.joins = some rule → stream.lookahead.kind.role.power ≤ power

theorem TokenStream.LetsFollow.mono {stream : TokenStream} {low high : Nat} (hle : low ≤ high)
    (h : stream.LetsFollow low) : stream.LetsFollow high := by
  intro rule hjoins
  have := h rule hjoins
  omega

theorem TokenStream.LetsFollow.stops {stream : TokenStream} {power : Nat}
    (h : stream.LetsFollow power) (threshold : Threshold)
    (hadmits : threshold.admits power = false) : threshold.Stops stream := by
  intro rule hjoins
  cases hnext : threshold.admits stream.lookahead.kind.role.power with
  | false => rfl
  | true => rw [Threshold.admits_of_le (h rule hjoins) hnext] at hadmits; cases hadmits

theorem TokenStream.letsFollow_of_joins {stream : TokenStream} (power : Nat)
    (h : stream.lookahead.kind.role.joins = none) : stream.LetsFollow power := by
  intro rule hjoins
  rw [h] at hjoins
  cases hjoins

end Formula
