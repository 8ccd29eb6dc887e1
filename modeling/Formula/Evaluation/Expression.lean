import Formula.Evaluation.Basic
import Formula.Threshold

/-!
# Expressions

A formula is evaluated while its tokens are read, once and from left to right.
The first token opens an expression; each token behind it joins what has been
evaluated so far to what follows, as long as the threshold admits its power.
Operands, arguments and groups are expressions within the expression, with
thresholds of their own.
-/

namespace Formula

namespace Evaluation

section Expression

/- Expressions within the expression are evaluated by `operand`, one level deeper. -/
variable (registry : Registry) (operand : Threshold → Evaluation Value)

def openWith (rule : Opening) (power : Nat) (token : Token) : Evaluation Value := do
  emit (.opened rule token)
  match rule with
  | .literal =>
      let x ← StateT.lift (Run.ofExcept token.value)
      pure (.number x)
  | .name => pure (resolve registry token.text)
  | .negate =>
      let value ← operand (.above power)
      let x ← number value
      pure (.number (-x))
  | .group =>
      let value ← operand .lowest
      closeParen
      pure value

/-- The value on the left joined to what follows the token.

An argument is an expression that nothing below an opening parenthesis extends,
and the function is looked up behind it. -/
def joinWith (rule : Joining) (power : Nat) (token : Token) (left : Value) :
    Evaluation Value := do
  emit (.joined rule token left)
  match rule, left with
  | .binary operator, left =>
      let x ← number left
      let right ← operand (.rightOperand power operator.associativity)
      let y ← number right
      pure (.number (operator.apply x y))
  | .call, .number x =>
      fail (.notAFunction (Numeric.Style.plain.render x) token.position)
  | .call, .pending name =>
      let argument ← operand (.above power)
      closeParen
      match registry.function? name with
      | none => fail (.unknownFunction name)
      | some function =>
          let x ← number argument
          let y ← applyFunction function x
          pure (.number y)

/-- Join as many tokens as the threshold admits.

Each turn takes a token, so the room for tokens when the loop starts bounds the
number of its turns. -/
def extend (threshold : Threshold) : Nat → Value → Evaluation Value
  | 0, left => pure left
  | turns + 1, left => do
      let next ← peek
      match next.kind.role with
      | ⟨power, _, some rule⟩ =>
          if threshold.admits power then
            let token ← advance
            let joined ← joinWith registry operand rule power token left
            extend threshold turns joined
          else
            pure left
      | ⟨_, _, none⟩ => pure left

/-- An expression that the tokens at or below the threshold end. -/
def expressionWith (threshold : Threshold) : Evaluation Value := do
  let token ← advance
  match token.kind.role with
  | ⟨power, some rule, _⟩ =>
      let first ← openWith registry operand rule power token
      let turns ← room
      extend registry operand threshold turns first
  | ⟨_, none, _⟩ => unexpected token

end Expression

/-- An expression below which so many levels of expressions are allowed. -/
def expression (registry : Registry) (limit : Nat) : Nat → Threshold → Evaluation Value
  | 0, _ => fail (.nestedTooDeeply limit)
  | levels + 1, threshold =>
      within (limit - levels) (expressionWith registry (expression registry limit levels) threshold)

def whole (registry : Registry) (limit : Nat) : Evaluation Float := do
  let value ← expression registry limit limit .lowest
  let trailing ← peek
  if trailing.kind = .endOfInput then
    number value
  else
    unexpected trailing

end Evaluation

end Formula
