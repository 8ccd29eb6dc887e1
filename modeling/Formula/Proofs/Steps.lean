import Formula.Evaluate

/-!
# Steps of an evaluation

All that an evaluation does is made up of a few steps.  A property that these
steps have, and that steps in sequence keep, is a property of every evaluation.
-/

namespace Formula

/-- The token that an event reads.  The end of a text is read like a token. -/
def Event.read? : Event → Option Token
  | .scanned token => some token
  | .ended position => some (.endOfInput position)
  | _ => none

namespace Evaluation

/-- A property that the steps of an evaluation have, and that steps in sequence keep. -/
structure Hereditary (property : (α : Type) → Evaluation α → Prop) : Prop where
  pure : ∀ {α : Type} (value : α), property α (pure value)
  fail : ∀ {α : Type} (error : Error), property α (fail error)
  bind : ∀ {α β : Type} {first : Evaluation α} {next : α → Evaluation β}, property α first →
    (∀ value, property β (next value)) → property β (first >>= next)
  emit : ∀ {event : Event}, event.read? = none → property Unit (emit event)
  lift : ∀ {α : Type} (outcome : Except Error α), property α (StateT.lift (Run.ofExcept outcome))
  peek : property Token peek
  room : property Nat room
  advance : property Token advance
  closeParen : property Unit closeParen
  within : ∀ {α : Type} (depth : Nat) {body : Evaluation α}, property α body →
    property α (within depth body)

namespace Hereditary

variable {property : (α : Type) → Evaluation α → Prop} (h : Hereditary property)
  (registry : Registry) {operand : Threshold → Evaluation Value}

include h

theorem applyFunction (function : UnaryFunction) (x : Float) :
    property Float (applyFunction function x) := by
  unfold Evaluation.applyFunction
  cases function.label with
  | none => exact h.bind (h.pure _) fun _ => h.pure _
  | some name => exact h.bind (h.emit rfl) fun _ => h.pure _

theorem openWith (hoperand : ∀ threshold, property Value (operand threshold)) (rule : Opening)
    (power : Nat) (token : Token) :
    property Value (openWith registry operand rule power token) := by
  refine h.bind (h.emit rfl) fun _ => ?_
  cases rule with
  | literal => exact h.bind (h.lift _) fun _ => h.pure _
  | name => exact h.pure _
  | negate => exact h.bind (hoperand _) fun _ => h.bind (h.lift _) fun _ => h.pure _
  | group => exact h.bind (hoperand _) fun _ => h.bind h.closeParen fun _ => h.pure _

theorem joinWith (hoperand : ∀ threshold, property Value (operand threshold)) (rule : Joining)
    (power : Nat) (token : Token) (left : Value) :
    property Value (joinWith registry operand rule power token left) := by
  refine h.bind (h.emit rfl) fun _ => ?_
  cases rule with
  | binary operator =>
      refine h.bind (h.lift _) fun _ => h.bind (hoperand _) fun _ => ?_
      exact h.bind (h.lift _) fun _ => h.pure _
  | call =>
      cases left with
      | number x => exact h.fail _
      | pending name =>
          refine h.bind (hoperand _) fun _ => h.bind h.closeParen fun _ => ?_
          cases registry.function? name with
          | none => exact h.fail _
          | some function =>
              refine h.bind (h.lift _) fun _ => ?_
              exact h.bind (h.applyFunction function _) fun _ => h.pure _

theorem extend (hoperand : ∀ threshold, property Value (operand threshold))
    (threshold : Threshold) (turns : Nat) (left : Value) :
    property Value (extend registry operand threshold turns left) := by
  induction turns generalizing left with
  | zero => exact h.pure left
  | succ turns ih =>
      refine h.bind h.peek fun next => ?_
      split
      · split
        · refine h.bind h.advance fun _ => ?_
          exact h.bind (h.joinWith registry hoperand _ _ _ _) fun joined => ih joined
        · exact h.pure left
      · exact h.pure left

theorem expressionWith (hoperand : ∀ threshold, property Value (operand threshold))
    (threshold : Threshold) : property Value (expressionWith registry operand threshold) := by
  refine h.bind h.advance fun token => ?_
  split
  · refine h.bind (h.openWith registry hoperand _ _ _) fun first => ?_
    exact h.bind h.room fun _ => h.extend registry hoperand _ _ first
  · exact h.fail _

theorem expression (limit levels : Nat) (threshold : Threshold) :
    property Value (expression registry limit levels threshold) := by
  induction levels generalizing threshold with
  | zero => exact h.fail _
  | succ levels ih => exact h.within _ (h.expressionWith registry ih threshold)

theorem whole (limit : Nat) : property Float (whole registry limit) := by
  refine h.bind (h.expression registry limit limit .lowest) fun value => ?_
  refine h.bind h.peek fun trailing => ?_
  split
  · exact h.lift _
  · exact h.fail _

end Hereditary

end Evaluation

end Formula
