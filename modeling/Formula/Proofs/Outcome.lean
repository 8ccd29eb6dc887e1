import Formula.Evaluate
import Formula.Proofs.Taking

/-!
# Outcomes of the steps of an evaluation

One equation for each step says what its outcome is, in terms of the outcomes of
the steps that it consists of.
-/

namespace Formula

/-! ## Outcomes in sequence -/

section Sequence

variable {ε α β : Type}

@[simp] theorem ok_bind (value : α) (next : α → Except ε β) :
    ((Except.ok value : Except ε α) >>= next) = next value :=
  rfl

@[simp] theorem error_bind (error : ε) (next : α → Except ε β) :
    ((Except.error error : Except ε α) >>= next) = .error error :=
  rfl

theorem bind_eq_ok {first : Except ε α} {next : α → Except ε β} {result : β} :
    first >>= next = .ok result ↔ ∃ value, first = .ok value ∧ next value = .ok result := by
  cases first with
  | error error => simp
  | ok value => simp

theorem map_eq_ok {first : Except ε α} {f : α → β} {result : β} :
    first.map f = .ok result ↔ ∃ value, first = .ok value ∧ f value = result := by
  cases first with
  | error error => simp [Except.map]
  | ok value => simp [Except.map]

/-- The outcome is a value with the first property or an error with the second. -/
def Meets (P : α → Prop) (E : ε → Prop) : Except ε α → Prop
  | .ok value => P value
  | .error error => E error

section Meets

variable {P : α → Prop} {Q : β → Prop} {E : ε → Prop} {first : Except ε α}

/-- Nothing is asked of the errors. -/
theorem meets_of_eq_ok (h : ∀ value, first = .ok value → P value) :
    Meets P (fun _ => True) first := by
  cases first with
  | ok value => exact h value rfl
  | error error => exact trivial

theorem Meets.bind {next : α → Except ε β} (hfirst : Meets P E first)
    (hnext : ∀ value, first = .ok value → P value → Meets Q E (next value)) :
    Meets Q E (first >>= next) := by
  cases first with
  | ok value => exact hnext value rfl hfirst
  | error error => exact hfirst

theorem Meets.mono {R : α → Prop} (hfirst : Meets P E first) (h : ∀ value, P value → R value) :
    Meets R E first := by
  cases first with
  | ok value => exact h value hfirst
  | error error => exact hfirst

theorem Meets.map {f : α → β} (hfirst : Meets P E first) (hf : ∀ value, P value → Q (f value)) :
    Meets Q E (first.map f) := by
  cases first with
  | ok value => exact hf value hfirst
  | error error => exact hfirst

end Meets

end Sequence

theorem Value.toNumber_eq_ok {value : Value} {x : Float} (h : value.toNumber = .ok x) :
    value = .number x := by
  cases value <;> cases h
  rfl

theorem Run.bind_congr {α β : Type} {run : Run α} {first second : α → Run β}
    (h : ∀ value, run.outcome = .ok value → first value = second value) :
    run >>= first = run >>= second := by
  show Run.bind run first = Run.bind run second
  unfold Run.bind
  cases houtcome : run.outcome with
  | error error => rfl
  | ok value => simp only [h value houtcome]

namespace Evaluation

open TokenStream (Takes ofLexer)

variable {α β : Type}

@[simp] theorem outcome_bind (first : Evaluation α) (next : α → Evaluation β)
    (stream : TokenStream) :
    ((first >>= next) stream).outcome =
      (first stream).outcome >>= fun result => (next result.1 result.2).outcome :=
  Run.outcome_bind (first stream) _

@[simp] theorem outcome_pure (value : α) (stream : TokenStream) :
    ((pure value : Evaluation α) stream).outcome = .ok (value, stream) :=
  rfl

@[simp] theorem outcome_emit (event : Event) (stream : TokenStream) :
    (emit event stream).outcome = .ok ((), stream) :=
  rfl

@[simp] theorem outcome_peek (stream : TokenStream) :
    (peek stream).outcome = .ok (stream.lookahead, stream) :=
  rfl

@[simp] theorem outcome_lift (outcome : Except Error α) (stream : TokenStream) :
    ((StateT.lift (Run.ofExcept outcome) : Evaluation α) stream).outcome =
      outcome.map (·, stream) := by
  cases outcome <;> rfl

@[simp] theorem outcome_number (value : Value) (stream : TokenStream) :
    (number value stream).outcome = value.toNumber.map (·, stream) :=
  outcome_lift value.toNumber stream

theorem advance_eq (stream : TokenStream) :
    advance stream =
      if stream.lookahead.kind = .endOfInput then pure (stream.lookahead, stream)
      else ofLexer stream.lexer >>= fun after => pure (stream.lookahead, after) := by
  unfold advance call
  by_cases hkind : stream.lookahead.kind = .endOfInput
  · simp only [TokenStream.advance, if_pos hkind, pure_bind]
  · simp only [TokenStream.advance_eq hkind, if_neg hkind, bind_assoc, pure_bind]
    apply Run.bind_congr
    intro after hread
    rw [hread]

theorem outcome_advance (stream : TokenStream) :
    (advance stream).outcome =
      if stream.lookahead.kind = .endOfInput then .ok (stream.lookahead, stream)
      else (ofLexer stream.lexer).outcome.map (stream.lookahead, ·) := by
  rw [advance_eq]
  split
  · rfl
  · rw [Run.outcome_bind]
    cases (ofLexer stream.lexer).outcome <;> rfl

theorem eq_lookahead_of_advance {stream after : TokenStream} {token : Token}
    (h : (advance stream).outcome = .ok (token, after)) : token = stream.lookahead := by
  rw [outcome_advance] at h
  split at h
  · cases h
    rfl
  · obtain ⟨_, _, heq⟩ := map_eq_ok.1 h
    cases heq
    rfl

theorem takes_of_advance {stream after : TokenStream} {token : Token}
    (hkind : stream.lookahead.kind ≠ .endOfInput)
    (h : (advance stream).outcome = .ok (token, after)) : Takes stream [token] after := by
  rw [outcome_advance, if_neg hkind] at h
  obtain ⟨_, hread, heq⟩ := map_eq_ok.1 h
  cases heq
  exact .token hkind hread (.nothing after)

theorem advance_of_takes {stream after : TokenStream} {token : Token}
    (h : Takes stream [token] after) : (advance stream).outcome = .ok (token, after) := by
  cases h with
  | token hkind hread hrest =>
      cases hrest
      rw [outcome_advance, if_neg hkind, hread]
      rfl

theorem closeParen_eq (stream : TokenStream) :
    closeParen stream =
      if stream.lookahead.kind = .closeParen then
        ofLexer stream.lexer >>= fun after => pure ((), after)
      else Run.fail (.unclosedParenthesis stream.lookahead.position) := by
  by_cases hkind : stream.lookahead.kind = .closeParen
  · have hend : stream.lookahead.kind ≠ .endOfInput := by simp [hkind]
    have hadvance := advance_eq stream
    rw [if_neg hend] at hadvance
    rw [if_pos hkind]
    have hcall : call (TokenStream.advanceIf .closeParen) stream =
        advance stream >>= fun taken => pure (true, taken.2) := by
      simp only [call, advance, TokenStream.advanceIf, if_pos hkind, bind_assoc, pure_bind]
    show call (TokenStream.advanceIf .closeParen) stream >>= _ = _
    rw [hcall, hadvance]
    simp only [bind_assoc, pure_bind]
    rfl
  · rw [if_neg hkind]
    show call (TokenStream.advanceIf .closeParen) stream >>= _ = _
    simp only [call, TokenStream.advanceIf, if_neg hkind, pure_bind]
    rfl

theorem outcome_closeParen (stream : TokenStream) :
    (closeParen stream).outcome =
      if stream.lookahead.kind = .closeParen then
        (ofLexer stream.lexer).outcome.map ((), ·)
      else .error (.unclosedParenthesis stream.lookahead.position) := by
  rw [closeParen_eq]
  split
  · rw [Run.outcome_bind]
    cases (ofLexer stream.lexer).outcome <;> rfl
  · rfl

@[simp] theorem outcome_applyFunction (function : UnaryFunction) (x : Float)
    (stream : TokenStream) :
    (applyFunction function x stream).outcome = .ok (function.apply x, stream) := by
  unfold applyFunction
  cases function.label <;> rfl

/-! ## Opening and joining -/

section Expression

variable (registry : Registry) (operand : Threshold → Evaluation Value)

theorem outcome_openWith (rule : Opening) (power : Nat) (token : Token) (stream : TokenStream) :
    (openWith registry operand rule power token stream).outcome =
      match rule with
      | .literal => token.value.map fun x => (.number x, stream)
      | .name => .ok (resolve registry token.text, stream)
      | .negate =>
          (operand (.above power) stream).outcome >>= fun result =>
            result.1.toNumber.map fun x => (.number (-x), result.2)
      | .group =>
          (operand .lowest stream).outcome >>= fun result =>
            (closeParen result.2).outcome >>= fun closed => .ok (result.1, closed.2) := by
  unfold openWith
  rw [outcome_bind, outcome_emit, ok_bind]
  cases rule with
  | literal =>
      simp only [outcome_bind, outcome_lift, outcome_pure]
      cases token.value <;> rfl
  | name => rfl
  | negate =>
      simp only [outcome_bind, outcome_number, outcome_pure]
      congr 1
      funext result
      cases result.1.toNumber <;> rfl
  | group => simp only [outcome_bind, outcome_pure]

theorem outcome_joinWith (rule : Joining) (power : Nat) (token : Token) (left : Value)
    (stream : TokenStream) :
    (joinWith registry operand rule power token left stream).outcome =
      match rule, left with
      | .binary operator, left =>
          left.toNumber >>= fun x =>
            (operand (.rightOperand power operator.associativity) stream).outcome >>= fun result =>
              result.1.toNumber.map fun y => (.number (operator.apply x y), result.2)
      | .call, .number x =>
          .error (.notAFunction (Numeric.Style.plain.render x) token.position)
      | .call, .pending name =>
          (operand (.above power) stream).outcome >>= fun result =>
            (closeParen result.2).outcome >>= fun closed =>
              match registry.function? name with
              | none => .error (.unknownFunction name)
              | some function =>
                  result.1.toNumber.map fun x => (.number (function.apply x), closed.2) := by
  unfold joinWith
  rw [outcome_bind, outcome_emit, ok_bind]
  cases rule with
  | binary operator =>
      simp only [outcome_bind, outcome_number, outcome_pure]
      cases left.toNumber with
      | error error => rfl
      | ok x =>
          simp only [Except.map, ok_bind]
          congr 1
          funext result
          cases result.1.toNumber <;> rfl
  | call =>
      cases left with
      | number x => rfl
      | pending name =>
          simp only [outcome_bind]
          congr 1
          funext result
          congr 1
          funext closed
          cases registry.function? name with
          | none => rfl
          | some function =>
              simp only [outcome_bind, outcome_number, outcome_applyFunction, outcome_pure, ok_bind]
              cases result.1.toNumber <;> rfl

variable {registry operand}

/-- How a token opens an expression with a value. -/
theorem openWith_eq_ok {rule : Opening} {power : Nat} {token : Token} {value : Value}
    {stream after : TokenStream}
    (h : (openWith registry operand rule power token stream).outcome = .ok (value, after)) :
    match rule with
    | .literal => ∃ x, token.value = .ok x ∧ value = .number x ∧ after = stream
    | .name => value = resolve registry token.text ∧ after = stream
    | .negate =>
        ∃ x, (operand (.above power) stream).outcome = .ok (.number x, after) ∧
          value = .number (-x)
    | .group =>
        ∃ middle, (operand .lowest stream).outcome = .ok (value, middle) ∧
          (closeParen middle).outcome = .ok ((), after) := by
  rw [outcome_openWith] at h
  cases rule with
  | literal =>
      obtain ⟨x, hx, heq⟩ := map_eq_ok.1 h
      cases heq
      exact ⟨x, hx, rfl, rfl⟩
  | name =>
      cases h
      exact ⟨rfl, rfl⟩
  | negate =>
      obtain ⟨⟨inner, last⟩, hinner, hrest⟩ := bind_eq_ok.1 h
      obtain ⟨x, hx, heq⟩ := map_eq_ok.1 hrest
      cases heq
      exact ⟨x, Value.toNumber_eq_ok hx ▸ hinner, rfl⟩
  | group =>
      obtain ⟨⟨inner, middle⟩, hinner, hrest⟩ := bind_eq_ok.1 h
      obtain ⟨⟨_, last⟩, hclose, heq⟩ := bind_eq_ok.1 hrest
      cases heq
      exact ⟨middle, hinner, hclose⟩

/-- How a token joins the value on its left to what follows with a value. -/
theorem joinWith_eq_ok {rule : Joining} {power : Nat} {token : Token} {left value : Value}
    {stream after : TokenStream}
    (h : (joinWith registry operand rule power token left stream).outcome = .ok (value, after)) :
    match rule with
    | .binary operator =>
        ∃ x y, left = .number x ∧
          (operand (.rightOperand power operator.associativity) stream).outcome =
            .ok (.number y, after) ∧
          value = .number (operator.apply x y)
    | .call =>
        ∃ name function x middle, left = .pending name ∧
          (operand (.above power) stream).outcome = .ok (.number x, middle) ∧
          (closeParen middle).outcome = .ok ((), after) ∧
          registry.function? name = some function ∧ value = .number (function.apply x) := by
  rw [outcome_joinWith] at h
  cases rule with
  | binary operator =>
      obtain ⟨x, hx, hrest⟩ := bind_eq_ok.1 h
      obtain ⟨⟨right, last⟩, hright, hnumber⟩ := bind_eq_ok.1 hrest
      obtain ⟨y, hy, heq⟩ := map_eq_ok.1 hnumber
      cases heq
      exact ⟨x, y, Value.toNumber_eq_ok hx, Value.toNumber_eq_ok hy ▸ hright, rfl⟩
  | call =>
      cases left with
      | number x => cases h
      | pending name =>
          obtain ⟨⟨argument, middle⟩, hargument, hrest⟩ := bind_eq_ok.1 h
          obtain ⟨⟨_, last⟩, hclose, happly⟩ := bind_eq_ok.1 hrest
          cases hfunction : registry.function? name with
          | none => simp [hfunction] at happly
          | some function =>
              simp only [hfunction] at happly
              obtain ⟨x, hx, heq⟩ := map_eq_ok.1 happly
              cases heq
              exact ⟨name, function, x, middle, rfl, Value.toNumber_eq_ok hx ▸ hargument, hclose,
                hfunction, rfl⟩

end Expression

end Evaluation

end Formula
