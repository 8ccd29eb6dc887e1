import Formula.Proofs.Outcome
import Formula.Proofs.Steps

/-!
# The loop that extends an expression

Every computation only takes tokens, and each turn of the loop takes one, so the
loop ends by itself.  Its equation does not mention the bound on its turns.
-/

namespace Formula

/-- The next token does not extend an expression with the threshold. -/
def Threshold.Stops (threshold : Threshold) (stream : TokenStream) : Prop :=
  ∀ rule, stream.lookahead.kind.role.joins = some rule →
    threshold.admits stream.lookahead.kind.role.power = false

theorem Threshold.stops_of_joins {stream : TokenStream} (threshold : Threshold)
    (h : stream.lookahead.kind.role.joins = none) : threshold.Stops stream := by
  intro rule hjoins
  rw [h] at hjoins
  cases hjoins

theorem Kind.ne_endOfInput_of_opens {kind : Kind} {rule : Opening}
    (h : kind.role.opens = some rule) : kind ≠ .endOfInput := by
  intro hkind
  rw [hkind] at h
  cases h

theorem Kind.ne_endOfInput_of_joins {kind : Kind} {rule : Joining}
    (h : kind.role.joins = some rule) : kind ≠ .endOfInput := by
  intro hkind
  rw [hkind] at h
  cases h

namespace Evaluation

open TokenStream (Takes)

variable {α β : Type}

/-! ## Computations that only take tokens -/

/-- A computation that changes a stream by taking tokens only. -/
def Consumes (body : Evaluation α) : Prop :=
  ∀ stream value after, (body stream).outcome = .ok (value, after) →
    ∃ tokens, Takes stream tokens after

theorem Consumes.left_le {body : Evaluation α} (h : Consumes body) {stream after : TokenStream}
    {value : α} (houtcome : (body stream).outcome = .ok (value, after)) :
    after.left ≤ stream.left := by
  obtain ⟨tokens, htakes⟩ := h stream value after houtcome
  have := htakes.left_add_length_le
  omega

theorem consumes_of_unmoved {body : Evaluation α}
    (h : ∀ stream value after, (body stream).outcome = .ok (value, after) → after = stream) :
    Consumes body := by
  intro stream value after houtcome
  rw [h stream value after houtcome]
  exact ⟨[], .nothing stream⟩

theorem consumes_bind {first : Evaluation α} {next : α → Evaluation β} (hfirst : Consumes first)
    (hnext : ∀ value, Consumes (next value)) : Consumes (first >>= next) := by
  intro stream result last houtcome
  rw [outcome_bind] at houtcome
  obtain ⟨⟨value, middle⟩, hmiddle, hlast⟩ := bind_eq_ok.1 houtcome
  obtain ⟨front, hfront⟩ := hfirst stream value middle hmiddle
  obtain ⟨back, hback⟩ := hnext value middle result last hlast
  exact ⟨front ++ back, hfront.trans hback⟩

theorem consumes_pure (value : α) : Consumes (pure value) := by
  apply consumes_of_unmoved
  intro stream value after h
  cases h
  rfl

theorem consumes_fail (error : Error) : Consumes (fail error : Evaluation α) := by
  intro stream value after h
  cases h

theorem consumes_emit (event : Event) : Consumes (emit event) := by
  apply consumes_of_unmoved
  intro stream value after h
  cases h
  rfl

theorem consumes_peek : Consumes peek := by
  apply consumes_of_unmoved
  intro stream value after h
  cases h
  rfl

theorem consumes_room : Consumes room := by
  apply consumes_of_unmoved
  intro stream value after h
  cases h
  rfl

theorem consumes_lift (outcome : Except Error α) :
    Consumes (StateT.lift (Run.ofExcept outcome)) := by
  apply consumes_of_unmoved
  intro stream value after houtcome
  rw [outcome_lift, map_eq_ok] at houtcome
  obtain ⟨_, _, heq⟩ := houtcome
  cases heq
  rfl

theorem consumes_advance : Consumes advance := by
  intro stream token after houtcome
  by_cases hkind : stream.lookahead.kind = .endOfInput
  · rw [outcome_advance, if_pos hkind] at houtcome
    cases houtcome
    exact ⟨[], .nothing _⟩
  · exact ⟨[token], takes_of_advance hkind houtcome⟩

theorem takes_of_closeParen {stream after : TokenStream} {value : Unit}
    (h : (closeParen stream).outcome = .ok (value, after)) :
    ∃ closing : Token, closing.kind = .closeParen ∧ Takes stream [closing] after := by
  rw [outcome_closeParen] at h
  by_cases hkind : stream.lookahead.kind = .closeParen
  · rw [if_pos hkind] at h
    obtain ⟨middle, hread, heq⟩ := map_eq_ok.1 h
    cases heq
    have hend : stream.lookahead.kind ≠ .endOfInput := by simp [hkind]
    exact ⟨stream.lookahead, hkind, .token hend hread (.nothing after)⟩
  · rw [if_neg hkind] at h
    cases h

theorem consumes_closeParen : Consumes closeParen := by
  intro stream value after houtcome
  obtain ⟨closing, _, htakes⟩ := takes_of_closeParen houtcome
  exact ⟨[closing], htakes⟩

/-- Whatever is made up of steps only takes tokens. -/
theorem hereditary_consumes : Hereditary fun _ body => Consumes body where
  pure := consumes_pure
  fail := consumes_fail
  bind := consumes_bind
  emit _ := consumes_emit _
  lift := consumes_lift
  peek := consumes_peek
  room := consumes_room
  advance := consumes_advance
  closeParen := consumes_closeParen
  within _ _ h := h

theorem consumes_applyFunction (function : UnaryFunction) (x : Float) :
    Consumes (applyFunction function x) :=
  hereditary_consumes.applyFunction function x

/-! ## The loop -/

section Expression

variable (registry : Registry) {operand : Threshold → Evaluation Value}

/-- The loop with the room for tokens as the bound on its turns. -/
def climb (operand : Threshold → Evaluation Value) (threshold : Threshold) (left : Value) :
    Evaluation Value :=
  fun stream => extend registry operand threshold stream.room left stream

theorem consumes_openWith (hoperand : ∀ threshold, Consumes (operand threshold)) (rule : Opening)
    (power : Nat) (token : Token) : Consumes (openWith registry operand rule power token) :=
  hereditary_consumes.openWith registry hoperand rule power token

theorem consumes_joinWith (hoperand : ∀ threshold, Consumes (operand threshold)) (rule : Joining)
    (power : Nat) (token : Token) (left : Value) :
    Consumes (joinWith registry operand rule power token left) :=
  hereditary_consumes.joinWith registry hoperand rule power token left

theorem peek_bind (next : Token → Evaluation α) (stream : TokenStream) :
    (peek >>= next) stream = next stream.lookahead stream :=
  pure_bind (stream.lookahead, stream) fun shown => next shown.1 shown.2

/-- One turn of the loop, with what comes behind it. -/
theorem extend_succ (threshold : Threshold) (turns : Nat) (left : Value) (stream : TokenStream) :
    extend registry operand threshold (turns + 1) left stream =
      match stream.lookahead.kind.role.joins with
      | none => pure (left, stream)
      | some rule =>
          if threshold.admits stream.lookahead.kind.role.power then
            advance stream >>= fun taken =>
              joinWith registry operand rule stream.lookahead.kind.role.power taken.1 left taken.2
                >>= fun joined => extend registry operand threshold turns joined.1 joined.2
          else pure (left, stream) := by
  rw [extend, peek_bind]
  obtain ⟨power, opens, joins⟩ := stream.lookahead.kind.role
  cases joins with
  | none => rfl
  | some rule =>
      dsimp only
      split <;> rfl

/-- Where no token is left, nothing extends an expression. -/
theorem extend_of_left_eq_zero (threshold : Threshold) (turns : Nat) (left : Value)
    {stream : TokenStream} (hleft : stream.left = 0) :
    extend registry operand threshold turns left stream = pure (left, stream) := by
  cases turns with
  | zero => rfl
  | succ turns =>
      have hkind : stream.lookahead.kind = .endOfInput := by
        by_cases hkind : stream.lookahead.kind = .endOfInput
        · exact hkind
        · rw [TokenStream.left, if_neg hkind] at hleft
          omega
      rw [extend_succ, hkind]
      rfl

/-- A turn of the loop takes a token. -/
theorem left_lt_of_turn (hoperand : ∀ threshold, Consumes (operand threshold))
    {stream middle after : TokenStream} {rule : Joining} {power : Nat} {token : Token}
    {left joined : Value} (hjoins : stream.lookahead.kind.role.joins = some rule)
    (hadvance : (advance stream).outcome = .ok (token, middle))
    (hjoin : (joinWith registry operand rule power token left middle).outcome =
      .ok (joined, after)) : after.left < stream.left := by
  have htakes := takes_of_advance (Kind.ne_endOfInput_of_joins hjoins) hadvance
  have hmiddle := htakes.left_add_length_le
  have hafter := (consumes_joinWith registry hoperand rule power token left).left_le hjoin
  rw [List.length_singleton] at hmiddle
  omega

/-- All bounds on the turns of the loop that leave room for the tokens are alike. -/
theorem extend_congr (hoperand : ∀ threshold, Consumes (operand threshold)) (threshold : Threshold)
    {first second : Nat} (left : Value) {stream : TokenStream}
    (hfirst : stream.left ≤ first) (hsecond : stream.left ≤ second) :
    extend registry operand threshold first left stream =
      extend registry operand threshold second left stream := by
  induction first generalizing second left stream with
  | zero =>
      have hleft : stream.left = 0 := Nat.le_zero.1 hfirst
      rw [extend_of_left_eq_zero registry threshold 0 left hleft,
        extend_of_left_eq_zero registry threshold second left hleft]
  | succ first ih =>
      cases second with
      | zero =>
          have hleft : stream.left = 0 := Nat.le_zero.1 hsecond
          rw [extend_of_left_eq_zero registry threshold _ left hleft,
            extend_of_left_eq_zero registry threshold 0 left hleft]
      | succ second =>
          rw [extend_succ, extend_succ]
          cases hjoins : stream.lookahead.kind.role.joins with
          | none => rfl
          | some rule =>
              dsimp only
              split
              · apply Run.bind_congr
                rintro ⟨taken, middle⟩ hmiddle
                apply Run.bind_congr
                rintro ⟨joined, after⟩ hafter
                have hlt := left_lt_of_turn registry hoperand hjoins hmiddle hafter
                exact ih joined (by dsimp only; omega) (by dsimp only; omega)
              · rfl

/-- The loop without a bound on its turns. -/
theorem climb_eq (hoperand : ∀ threshold, Consumes (operand threshold)) (threshold : Threshold)
    (left : Value) (stream : TokenStream) :
    climb registry operand threshold left stream =
      match stream.lookahead.kind.role.joins with
      | none => pure (left, stream)
      | some rule =>
          if threshold.admits stream.lookahead.kind.role.power then
            advance stream >>= fun taken =>
              joinWith registry operand rule stream.lookahead.kind.role.power taken.1 left taken.2
                >>= fun joined => climb registry operand threshold joined.1 joined.2
          else pure (left, stream) := by
  show extend registry operand threshold (stream.lexer.place.rest.length + 1) left stream = _
  rw [extend_succ]
  cases hjoins : stream.lookahead.kind.role.joins with
  | none => rfl
  | some rule =>
      dsimp only
      split
      · apply Run.bind_congr
        rintro ⟨taken, middle⟩ hmiddle
        apply Run.bind_congr
        rintro ⟨joined, after⟩ hafter
        have hlt := left_lt_of_turn registry hoperand hjoins hmiddle hafter
        have hbound : stream.left ≤ stream.lexer.place.rest.length + 1 := stream.left_le_room
        exact extend_congr registry hoperand threshold joined (by dsimp only; omega)
          after.left_le_room
      · rfl

/-! ## Outcomes -/

theorem outcome_climb (hoperand : ∀ threshold, Consumes (operand threshold)) (threshold : Threshold)
    (left : Value) (stream : TokenStream) :
    (climb registry operand threshold left stream).outcome =
      match stream.lookahead.kind.role.joins with
      | none => .ok (left, stream)
      | some rule =>
          if threshold.admits stream.lookahead.kind.role.power then
            (advance stream).outcome >>= fun taken =>
              (joinWith registry operand rule stream.lookahead.kind.role.power taken.1 left
                taken.2).outcome >>= fun joined =>
                  (climb registry operand threshold joined.1 joined.2).outcome
          else .ok (left, stream) := by
  rw [climb_eq registry hoperand]
  cases stream.lookahead.kind.role.joins with
  | none => rfl
  | some rule =>
      dsimp only
      split
      · simp only [Run.outcome_bind]
      · rfl

theorem outcome_climb_of_stops (hoperand : ∀ threshold, Consumes (operand threshold))
    {threshold : Threshold} (left : Value) {stream : TokenStream} (h : threshold.Stops stream) :
    (climb registry operand threshold left stream).outcome = .ok (left, stream) := by
  rw [outcome_climb registry hoperand]
  cases hjoins : stream.lookahead.kind.role.joins with
  | none => rfl
  | some rule => simp [h rule hjoins]

theorem outcome_climb_of_admits (hoperand : ∀ threshold, Consumes (operand threshold))
    {threshold : Threshold} (left : Value) {stream : TokenStream} {rule : Joining} {power : Nat}
    (hjoins : stream.lookahead.kind.role.joins = some rule)
    (hpower : stream.lookahead.kind.role.power = power) (hadmits : threshold.admits power = true) :
    (climb registry operand threshold left stream).outcome =
      (advance stream).outcome >>= fun taken =>
        (joinWith registry operand rule power taken.1 left taken.2).outcome >>= fun joined =>
          (climb registry operand threshold joined.1 joined.2).outcome := by
  rw [outcome_climb registry hoperand, hjoins, hpower]
  exact if_pos hadmits

/-- What each turn of the loop keeps, the loop keeps. -/
theorem meets_climb_of_turns (hoperand : ∀ threshold, Consumes (operand threshold))
    {threshold : Threshold} {invariant : Value → TokenStream → Prop} {failure : Error → Prop}
    (hturn : ∀ left stream rule, invariant left stream →
      stream.lookahead.kind.role.joins = some rule →
        threshold.admits stream.lookahead.kind.role.power = true →
          Meets (fun joined => invariant joined.1 joined.2) failure
            ((advance stream).outcome >>= fun taken =>
              (joinWith registry operand rule stream.lookahead.kind.role.power taken.1 left
                taken.2).outcome))
    {left : Value} {stream : TokenStream} (hstart : invariant left stream) :
    Meets (fun result => invariant result.1 result.2 ∧ threshold.Stops result.2) failure
      (climb registry operand threshold left stream).outcome := by
  -- on the tokens that are left, of which each turn takes some
  induction hn : stream.left using Nat.strongRecOn generalizing left stream with
  | ind n ih =>
      have hstopped : threshold.Stops stream →
          Meets (fun result => invariant result.1 result.2 ∧ threshold.Stops result.2) failure
            (climb registry operand threshold left stream).outcome := by
        intro hstops
        rw [outcome_climb_of_stops registry hoperand left hstops]
        exact ⟨hstart, hstops⟩
      cases hjoins : stream.lookahead.kind.role.joins with
      | none => exact hstopped (threshold.stops_of_joins hjoins)
      | some rule =>
          cases hadmits : threshold.admits stream.lookahead.kind.role.power with
          | false => exact hstopped fun _ _ => hadmits
          | true =>
              have hmeets := hturn left stream rule hstart hjoins hadmits
              rw [outcome_climb_of_admits registry hoperand left hjoins rfl hadmits]
              cases hadvance : (advance stream).outcome with
              | error error =>
                  rw [hadvance] at hmeets
                  exact hmeets
              | ok taken =>
                  rw [hadvance, ok_bind] at hmeets
                  rw [ok_bind]
                  refine hmeets.bind ?_
                  intro joined hjoin hjoined
                  have hlt := left_lt_of_turn registry hoperand hjoins hadvance hjoin
                  exact ih joined.2.left (hn ▸ hlt) hjoined rfl

theorem outcome_expressionWith (threshold : Threshold) (stream : TokenStream) :
    (expressionWith registry operand threshold stream).outcome =
      (advance stream).outcome >>= fun taken =>
        match taken.1.kind.role.opens with
        | none => .error (.unexpectedToken taken.1.display taken.1.position)
        | some rule =>
            (openWith registry operand rule taken.1.kind.role.power taken.1 taken.2).outcome >>=
              fun first => (climb registry operand threshold first.1 first.2).outcome := by
  unfold expressionWith
  rw [outcome_bind]
  congr 1
  funext taken
  obtain ⟨power, opens, joins⟩ := taken.1.kind.role
  cases opens with
  | none => rfl
  | some rule =>
      dsimp only
      rw [outcome_bind]
      rfl

theorem outcome_expressionWith_of_takes (threshold : Threshold) {stream after : TokenStream}
    {token : Token} (htakes : Takes stream [token] after) {rule : Opening}
    (hopens : token.kind.role.opens = some rule) :
    (expressionWith registry operand threshold stream).outcome =
      (openWith registry operand rule token.kind.role.power token after).outcome
        >>= fun first => (climb registry operand threshold first.1 first.2).outcome := by
  rw [outcome_expressionWith, advance_of_takes htakes]
  simp only [ok_bind, hopens]

end Expression

theorem joins_closing {stream after : TokenStream} {closing : Token} {tokens : List Token}
    (htakes : Takes stream (closing :: tokens) after) (hclosing : closing.kind = .closeParen) :
    stream.lookahead.kind.role.joins = none := by
  rw [htakes.head, hclosing]
  rfl

theorem closeParen_of_takes {stream after : TokenStream} {closing : Token}
    (htakes : Takes stream [closing] after) (hclosing : closing.kind = .closeParen) :
    (closeParen stream).outcome = .ok ((), after) := by
  cases htakes with
  | token _ hread hrest =>
      cases hrest
      rw [outcome_closeParen, if_pos hclosing, hread]
      rfl

theorem outcome_expression_succ (registry : Registry) (limit levels : Nat)
    (threshold : Threshold) (stream : TokenStream) :
    (expression registry limit (levels + 1) threshold stream).outcome =
      (expressionWith registry (expression registry limit levels) threshold stream).outcome :=
  rfl

theorem consumes_expression (registry : Registry) (limit levels : Nat) (threshold : Threshold) :
    Consumes (expression registry limit levels threshold) :=
  hereditary_consumes.expression registry limit levels threshold

theorem outcome_whole (registry : Registry) (limit : Nat) (stream : TokenStream) :
    (whole registry limit stream).outcome =
      (expression registry limit limit .lowest stream).outcome >>= fun result =>
        if result.2.lookahead.kind = .endOfInput then result.1.toNumber.map (·, result.2)
        else .error (.unexpectedToken result.2.lookahead.display result.2.lookahead.position) := by
  unfold whole
  simp only [outcome_bind, outcome_peek, ok_bind]
  congr 1
  funext result
  split
  · exact outcome_number _ _
  · rfl

end Evaluation

theorem evaluateWithin_eq (registry : Registry) (limit : Nat) (input : String) :
    evaluateWithin registry limit input =
      (TokenStream.ofText input).outcome >>= fun stream =>
        (Evaluation.whole registry limit stream).outcome >>= fun result => .ok result.1 := by
  unfold evaluateWithin run
  simp only [Run.outcome_bind]
  rfl

end Formula
