import Formula.Proofs.Climbing

/-!
# Evaluations as machines

An evaluation is a machine that takes tokens and leaves events.  It is due an
operand or an operator, as deep in expressions as it has entered and not left,
and fails in between.  What the machine can do is said once; what holds of all
events, whether the formula has a value or not, is what its moves keep.
-/

namespace Formula

open TokenStream (ofLexer Leaves)

namespace Evaluation

variable {α β : Type}

/-! ## Events in sequence -/

theorem events_bind_of_ok {first : Evaluation α} {stream after : TokenStream} {value : α}
    (h : (first stream).outcome = .ok (value, after)) (next : α → Evaluation β) :
    ((first >>= next) stream).events = (first stream).events ++ (next value after).events :=
  Run.events_bind_of_ok h _

theorem events_bind_of_error {first : Evaluation α} {stream : TokenStream} {error : Error}
    (h : (first stream).outcome = .error error) (next : α → Evaluation β) :
    ((first >>= next) stream).events = (first stream).events :=
  Run.events_bind_of_error h _

/-! ## Conditions on events and tokens -/

/-- Behind some events, a computation comes to a value and the first condition on all events and
the tokens that are left, or to an error and the second condition. -/
def EndsIn (after : α → List Event → TokenStream → Prop) (failed : Error → List Event → Prop)
    (past : List Event) (run : Run (α × TokenStream)) : Prop :=
  Meets (fun result => after result.1 (past ++ run.events) result.2)
    (fun error => failed error (past ++ run.events)) run.outcome

/-- From the first condition, a computation gets to the second one or fails with the third. -/
def Guarantees (before : List Event → TokenStream → Prop) (body : Evaluation α)
    (after : α → List Event → TokenStream → Prop) (failed : Error → List Event → Prop) : Prop :=
  ∀ past stream, before past stream → EndsIn after failed past (body stream)

section Guarantees

variable {before : List Event → TokenStream → Prop} {after : α → List Event → TokenStream → Prop}
  {failed : Error → List Event → Prop} {past : List Event} {stream : TokenStream}

theorem endsIn_pure {value : α} (h : after value past stream) :
    EndsIn after failed past (pure (value, stream)) := by
  show after value (past ++ []) stream
  rw [List.append_nil]
  exact h

theorem endsIn_fail {error : Error} (h : failed error past) :
    EndsIn after failed past (Run.fail error) := by
  show failed error (past ++ [])
  rw [List.append_nil]
  exact h

/-- To read on, a token comes in sight, or there is an error. -/
theorem endsIn_read {value : α}
    (hok : ∀ next, (ofLexer stream.lexer).outcome = .ok next →
      after value (past ++ (ofLexer stream.lexer).events) next)
    (herror : ∀ error, (ofLexer stream.lexer).outcome = .error error →
      failed error (past ++ (ofLexer stream.lexer).events)) :
    EndsIn after failed past (ofLexer stream.lexer >>= fun next => pure (value, next)) := by
  unfold EndsIn
  cases houtcome : (ofLexer stream.lexer).outcome with
  | ok next =>
      rw [Run.events_bind_of_ok houtcome, Run.outcome_bind_of_ok houtcome, Run.events_pure,
        List.append_nil]
      exact hok next houtcome
  | error error =>
      rw [Run.events_bind_of_error houtcome, Run.outcome_bind_of_error houtcome]
      exact herror error houtcome

theorem Guarantees.bind {first : Evaluation α} {next : α → Evaluation β}
    {last : β → List Event → TokenStream → Prop} (hfirst : Guarantees before first after failed)
    (hnext : ∀ value, Guarantees (after value) (next value) last failed) :
    Guarantees before (first >>= next) last failed := by
  intro past stream hbefore
  have hends := hfirst past stream hbefore
  unfold EndsIn at hends ⊢
  cases houtcome : (first stream).outcome with
  | error error =>
      rw [houtcome] at hends
      rw [events_bind_of_error houtcome, outcome_bind, houtcome, error_bind]
      exact hends
  | ok result =>
      rw [houtcome] at hends
      rw [events_bind_of_ok houtcome, outcome_bind, houtcome, ok_bind, ← List.append_assoc]
      exact hnext result.1 _ _ hends

theorem guarantees_pure {value : α} (h : ∀ past stream, before past stream →
    after value past stream) : Guarantees before (pure value) after failed :=
  fun past stream hbefore => endsIn_pure (h past stream hbefore)

theorem guarantees_fail {error : Error} (h : ∀ past stream, before past stream →
    failed error past) : Guarantees before (fail error : Evaluation α) after failed :=
  fun past stream hbefore => endsIn_fail (h past stream hbefore)

theorem guarantees_emit {event : Event} {after : Unit → List Event → TokenStream → Prop}
    (h : ∀ past stream, before past stream → after () (past ++ [event]) stream) :
    Guarantees before (emit event) after failed :=
  fun past stream hbefore => h past stream hbefore

theorem guarantees_lift {outcome : Except Error α}
    (hok : ∀ value past stream, before past stream → after value past stream)
    (herror : ∀ error past stream, outcome = .error error → before past stream →
      failed error past) :
    Guarantees before (StateT.lift (Run.ofExcept outcome)) after failed := by
  cases outcome with
  | ok value => exact guarantees_pure (hok value)
  | error error => exact guarantees_fail fun past stream => herror error past stream rfl

theorem guarantees_peek :
    Guarantees before peek (fun token past stream => before past stream ∧ stream.lookahead = token)
      failed :=
  fun _ _ hbefore => endsIn_pure ⟨hbefore, rfl⟩

theorem guarantees_room : Guarantees before room (fun _ => before) failed :=
  fun _ _ hbefore => endsIn_pure hbefore

theorem guarantees_within {depth : Nat} {body : Evaluation α}
    {first : List Event → TokenStream → Prop} {last : α → List Event → TokenStream → Prop}
    {stopped : Error → List Event → Prop}
    (henter : ∀ past stream, before past stream → first (past ++ [.entered depth]) stream)
    (hbody : Guarantees first body last stopped)
    (hleave : ∀ value past stream, last value past stream →
      after value (past ++ [.exited depth]) stream)
    (hstop : ∀ error past, stopped error past → failed error (past ++ [.exited depth])) :
    Guarantees before (within depth body) after failed := by
  intro past stream hbefore
  have hends := hbody _ stream (henter past stream hbefore)
  have hevents : past ++ (within depth body stream).events =
      past ++ [.entered depth] ++ (body stream).events ++ [.exited depth] := by
    simp [within]
  unfold EndsIn at hends ⊢
  rw [hevents]
  show Meets _ _ (body stream).outcome
  cases houtcome : (body stream).outcome with
  | ok result =>
      rw [houtcome] at hends
      exact hleave _ _ _ hends
  | error error =>
      rw [houtcome] at hends
      exact hstop _ _ hends

end Guarantees

end Evaluation

/-! ## Events of reading -/

inductive Event.OnlyReads : Event → Prop
  | scanned (token : Token) : OnlyReads (.scanned token)
  | ended (position : Nat) : OnlyReads (.ended position)
  | strayed (cursor : Nat) : OnlyReads (.strayed cursor)

/-- To read leaves one event. -/
theorem TokenStream.exists_event_ofLexer (lexer : Lexer) :
    ∃ event : Event, (ofLexer lexer).events = [event] ∧ event.OnlyReads := by
  have hscans := scans lexer
  unfold ofLexer
  generalize scan lexer = scanned at hscans
  cases hscans with
  | token => exact ⟨_, rfl, .scanned _⟩
  | ended => exact ⟨_, rfl, .ended _⟩
  | stray => exact ⟨_, rfl, .strayed _⟩

/-! ## The machine -/

/-- The error comes from evaluating tokens, not from reading them. -/
def Error.OfEvaluation : Error → Prop
  | .strayCharacter _ _ => False
  | _ => True

namespace Machine

inductive Phase where
  /-- An expression. -/
  | operand
  /-- The first token of the expression that is entered. -/
  | first
  /-- What the token, which is taken, opens. -/
  | opening (token : Token)
  /-- A token that joins the value so far to what follows, or that ends the expression. -/
  | operator
  /-- What the token, which is taken, joins. -/
  | joining (token : Token)
  /-- Nothing but to leave the expressions that are entered. -/
  | failed (error : Error)

def Phase.behind : Opening → Phase
  | .literal | .name => .operator
  | .negate | .group => .operand

/-- The token that is taken and not done with. -/
def Phase.pending : Phase → List Token
  | .opening token | .joining token => [token]
  | _ => []

def Phase.Live : Phase → Prop
  | .failed _ => False
  | _ => True

structure Config where
  /-- How many expressions are entered and not left. -/
  depth : Nat
  /-- The tokens that are done with. -/
  taken : List Token
  phase : Phase
  stream : TokenStream

/-- What an evaluation can do next, with the events that this leaves. -/
inductive Move (limit : Nat) : Config → List Event → Config → Prop
  | enter {depth : Nat} {taken : List Token} {stream : TokenStream} (hdepth : depth < limit) :
      Move limit ⟨depth, taken, .operand, stream⟩ [.entered (depth + 1)]
        ⟨depth + 1, taken, .first, stream⟩
  | takeFirst {depth : Nat} {taken : List Token} {stream next : TokenStream}
      (hkind : stream.lookahead.kind ≠ .endOfInput)
      (hread : (ofLexer stream.lexer).outcome = .ok next) :
      Move limit ⟨depth, taken, .first, stream⟩ (ofLexer stream.lexer).events
        ⟨depth, taken, .opening stream.lookahead, next⟩
  | opens {depth : Nat} {taken : List Token} {stream : TokenStream} {token : Token}
      {rule : Opening} (hopens : token.kind.role.opens = some rule) :
      Move limit ⟨depth, taken, .opening token, stream⟩ [.opened rule token]
        ⟨depth, taken ++ [token], .behind rule, stream⟩
  | takeOperator {depth : Nat} {taken : List Token} {stream next : TokenStream}
      (hkind : stream.lookahead.kind ≠ .endOfInput)
      (hread : (ofLexer stream.lexer).outcome = .ok next) :
      Move limit ⟨depth, taken, .operator, stream⟩ (ofLexer stream.lexer).events
        ⟨depth, taken, .joining stream.lookahead, next⟩
  | joins {depth : Nat} {taken : List Token} {stream : TokenStream} {token : Token}
      {rule : Joining} (left : Value) (hjoins : token.kind.role.joins = some rule) :
      Move limit ⟨depth, taken, .joining token, stream⟩ [.joined rule token left]
        ⟨depth, taken ++ [token], .operand, stream⟩
  | close {depth : Nat} {taken : List Token} {stream next : TokenStream}
      (hkind : stream.lookahead.kind = .closeParen)
      (hread : (ofLexer stream.lexer).outcome = .ok next) :
      Move limit ⟨depth, taken, .operator, stream⟩ (ofLexer stream.lexer).events
        ⟨depth, taken ++ [stream.lookahead], .operator, next⟩
  | apply {depth : Nat} {taken : List Token} {stream : TokenStream} (name : String)
      (argument result : Float) :
      Move limit ⟨depth, taken, .operator, stream⟩ [.applied name argument result]
        ⟨depth, taken, .operator, stream⟩
  | leave {depth : Nat} {taken : List Token} {stream : TokenStream} {phase : Phase} :
      Move limit ⟨depth + 1, taken, phase, stream⟩ [.exited (depth + 1)]
        ⟨depth, taken, phase, stream⟩
  | stray {depth : Nat} {taken : List Token} {stream : TokenStream} {phase : Phase}
      {error : Error} (hlive : phase.Live) (hkind : stream.lookahead.kind ≠ .endOfInput)
      (hread : (ofLexer stream.lexer).outcome = .error error) :
      Move limit ⟨depth, taken, phase, stream⟩ (ofLexer stream.lexer).events
        ⟨depth, taken, .failed error, stream⟩
  | halt {depth : Nat} {taken : List Token} {stream : TokenStream} {phase : Phase}
      {error : Error} (hlive : phase.Live) (herror : error.OfEvaluation) :
      Move limit ⟨depth, taken, phase, stream⟩ [] ⟨depth, taken, .failed error, stream⟩

inductive Reaches (limit : Nat) (input : String) : List Event → Config → Prop
  | start {stream : TokenStream} (hread : (TokenStream.ofText input).outcome = .ok stream) :
      Reaches limit input (.started input :: (TokenStream.ofText input).events)
        ⟨0, [], .operand, stream⟩
  | move {past events : List Event} {config next : Config} (h : Reaches limit input past config)
      (hmove : Move limit config events next) : Reaches limit input (past ++ events) next

def Is (limit : Nat) (input : String) (depth : Nat) (phase : Phase) (past : List Event)
    (stream : TokenStream) : Prop :=
  ∃ taken, Reaches limit input past ⟨depth, taken, phase, stream⟩

def HasFailed (limit : Nat) (input : String) (depth : Nat) (error : Error) (past : List Event) :
    Prop :=
  ∃ taken stream, Reaches limit input past ⟨depth, taken, .failed error, stream⟩

section Step

variable {limit : Nat} {input : String} {depth : Nat} {phase : Phase} {past : List Event}
  {stream : TokenStream}

/-- The tokens that are done with, and the one that is taken, are the first ones of the text, and
the stream is what they leave of it.  Failing leaves everything as it is. -/
theorem Reaches.leaves {config : Config} (h : Reaches limit input past config) :
    ∃ pending, Leaves (Scan.ofText input) (config.taken ++ pending) config.stream ∧
      (config.phase.Live → pending = config.phase.pending) := by
  induction h with
  | start hread => exact ⟨[], TokenStream.leaves_of_ofLexer hread, fun _ => rfl⟩
  | move _ hmove ih =>
      obtain ⟨pending, hleaves, hpending⟩ := ih
      cases hmove with
      | enter | apply => exact ⟨pending, hleaves, fun _ => hpending trivial⟩
      | leave => exact ⟨pending, hleaves, hpending⟩
      | @opens _ _ _ _ rule =>
          obtain rfl := hpending trivial
          refine ⟨[], by simpa [Phase.pending] using hleaves, fun _ => ?_⟩
          cases rule <;> rfl
      | joins =>
          obtain rfl := hpending trivial
          exact ⟨[], by simpa [Phase.pending] using hleaves, fun _ => rfl⟩
      | takeFirst hkind hread | takeOperator hkind hread =>
          obtain rfl := hpending trivial
          have hbeyond := hleaves.beyond hkind
          rw [hread] at hbeyond
          exact ⟨[_], by simpa [Phase.pending] using hbeyond, fun _ => rfl⟩
      | @close _ _ stream _ hkind hread =>
          obtain rfl := hpending trivial
          have hend : stream.lookahead.kind ≠ .endOfInput := by simp [hkind]
          have hbeyond := hleaves.beyond hend
          rw [hread] at hbeyond
          exact ⟨[], by simpa [Phase.pending] using hbeyond, fun _ => rfl⟩
      | stray | halt => exact ⟨pending, hleaves, nofun⟩

theorem Is.halt (h : Is limit input depth phase past stream) (hlive : phase.Live) {error : Error}
    (herror : error.OfEvaluation) : HasFailed limit input depth error past := by
  obtain ⟨taken, hreaches⟩ := h
  have hmoved := hreaches.move (.halt hlive herror)
  rw [List.append_nil] at hmoved
  exact ⟨taken, stream, hmoved⟩

theorem Is.stray (h : Is limit input depth phase past stream) (hlive : phase.Live)
    (hkind : stream.lookahead.kind ≠ .endOfInput) {error : Error}
    (hread : (ofLexer stream.lexer).outcome = .error error) :
    HasFailed limit input depth error (past ++ (ofLexer stream.lexer).events) := by
  obtain ⟨taken, hreaches⟩ := h
  exact ⟨taken, stream, hreaches.move (.stray hlive hkind hread)⟩

/-- A move leaves an event, or none. -/
theorem Move.events_eq {config next : Config} {events : List Event}
    (h : Move limit config events next) : events = [] ∨ ∃ event, events = [event] := by
  cases h with
  | halt => exact .inl rfl
  | enter | opens | joins | apply | leave => exact .inr ⟨_, rfl⟩
  | takeFirst | takeOperator | close | stray =>
      obtain ⟨event, hevents, _⟩ := TokenStream.exists_event_ofLexer _
      exact .inr ⟨event, hevents⟩

end Step

end Machine

namespace Evaluation

open Machine

/-! ## Evaluations are such machines -/

section Step

variable {limit : Nat} {input : String} {depth : Nat} {registry : Registry}

theorem guarantees_number (phase : Phase) (hlive : phase.Live) (value : Value) :
    Guarantees (Is limit input depth phase) (number value)
      (fun _ => Is limit input depth phase) (HasFailed limit input depth) := by
  refine guarantees_lift (fun _ _ _ h => h) ?_
  intro error past stream herror h
  cases value with
  | number x => cases herror
  | pending name =>
      cases herror
      exact h.halt hlive trivial

theorem guarantees_closeParen :
    Guarantees (Is limit input depth .operator) closeParen
      (fun _ => Is limit input depth .operator) (HasFailed limit input depth) := by
  intro past stream h
  rw [closeParen_eq]
  by_cases hkind : stream.lookahead.kind = .closeParen
  · have hend : stream.lookahead.kind ≠ .endOfInput := by simp [hkind]
    rw [if_pos hkind]
    refine endsIn_read ?_ fun error hread => h.stray trivial hend hread
    intro next hread
    obtain ⟨taken, hreaches⟩ := h
    exact ⟨_, hreaches.move (.close hkind hread)⟩
  · rw [if_neg hkind]
    exact endsIn_fail (h.halt trivial trivial)

theorem guarantees_applyFunction (function : UnaryFunction) (x : Float) :
    Guarantees (Is limit input depth .operator) (applyFunction function x)
      (fun _ => Is limit input depth .operator) (HasFailed limit input depth) := by
  unfold applyFunction
  cases function.label with
  | none => exact guarantees_pure fun _ _ h => h
  | some name =>
      refine (guarantees_emit ?_).bind fun _ => guarantees_pure fun _ _ h => h
      rintro past stream ⟨taken, hreaches⟩
      exact ⟨taken, hreaches.move (.apply name x _)⟩

/-- Behind the first token of an expression, it opens something, or there was none. -/
theorem guarantees_advance_first :
    Guarantees (Is limit input depth .first) advance
      (fun token past stream => Is limit input depth (.opening token) past stream ∨
        (token.kind = .endOfInput ∧ Is limit input depth .first past stream))
      (HasFailed limit input depth) := by
  intro past stream h
  rw [advance_eq]
  by_cases hkind : stream.lookahead.kind = .endOfInput
  · rw [if_pos hkind]
    exact endsIn_pure (.inr ⟨hkind, h⟩)
  · rw [if_neg hkind]
    refine endsIn_read ?_ fun error hread => h.stray trivial hkind hread
    intro next hread
    obtain ⟨taken, hreaches⟩ := h
    exact .inl ⟨taken, hreaches.move (.takeFirst hkind hread)⟩

theorem guarantees_advance_operator {rule : Joining} :
    Guarantees
      (fun past stream => Is limit input depth .operator past stream ∧
        stream.lookahead.kind.role.joins = some rule)
      advance
      (fun token past stream => Is limit input depth (.joining token) past stream ∧
        token.kind.role.joins = some rule)
      (HasFailed limit input depth) := by
  rintro past stream ⟨h, hjoins⟩
  have hkind := Kind.ne_endOfInput_of_joins hjoins
  rw [advance_eq, if_neg hkind]
  refine endsIn_read ?_ fun error hread => h.stray trivial hkind hread
  intro next hread
  obtain ⟨taken, hreaches⟩ := h
  exact ⟨⟨taken, hreaches.move (.takeOperator hkind hread)⟩, hjoins⟩

/- The expressions within an expression lead from operand to operator. -/
variable {operand : Threshold → Evaluation Value}
  (hoperand : ∀ threshold, Guarantees (Is limit input depth .operand) (operand threshold)
    (fun _ => Is limit input depth .operator) (HasFailed limit input depth))

include hoperand

theorem guarantees_openWith {rule : Opening} {token : Token}
    (hopens : token.kind.role.opens = some rule) (power : Nat) :
    Guarantees (Is limit input depth (.opening token)) (openWith registry operand rule power token)
      (fun _ => Is limit input depth .operator) (HasFailed limit input depth) := by
  have hemit : Guarantees (Is limit input depth (.opening token)) (emit (.opened rule token))
      (fun _ => Is limit input depth (.behind rule)) (HasFailed limit input depth) := by
    refine guarantees_emit ?_
    rintro past stream ⟨taken, hreaches⟩
    exact ⟨_, hreaches.move (.opens hopens)⟩
  refine hemit.bind fun _ => ?_
  cases rule with
  | literal =>
      refine (guarantees_lift (fun _ _ _ h => h) ?_).bind fun _ => guarantees_pure fun _ _ h => h
      intro error past stream herror h
      refine h.halt trivial ?_
      unfold Token.value at herror
      cases hparse : Numeric.Literal.parse token.text with
      | ok x =>
          rw [hparse] at herror
          cases herror
      | error cause =>
          rw [hparse] at herror
          cases herror
          exact trivial
  | name => exact guarantees_pure fun _ _ h => h
  | negate =>
      refine (hoperand _).bind fun value => ?_
      exact (guarantees_number .operator trivial value).bind fun _ => guarantees_pure fun _ _ h => h
  | group =>
      refine (hoperand _).bind fun value => ?_
      exact guarantees_closeParen.bind fun _ => guarantees_pure fun _ _ h => h

theorem guarantees_joinWith (rule : Joining) (power : Nat) (token : Token) (left : Value) :
    Guarantees
      (fun past stream => Is limit input depth (.joining token) past stream ∧
        token.kind.role.joins = some rule)
      (joinWith registry operand rule power token left)
      (fun _ => Is limit input depth .operator) (HasFailed limit input depth) := by
  have hemit : Guarantees
      (fun past stream => Is limit input depth (.joining token) past stream ∧
        token.kind.role.joins = some rule)
      (emit (.joined rule token left)) (fun _ => Is limit input depth .operand)
      (HasFailed limit input depth) := by
    refine guarantees_emit ?_
    rintro past stream ⟨⟨taken, hreaches⟩, hjoins⟩
    exact ⟨_, hreaches.move (.joins left hjoins)⟩
  refine hemit.bind fun _ => ?_
  cases rule with
  | binary operator =>
      refine (guarantees_number .operand trivial left).bind fun x => ?_
      refine (hoperand _).bind fun right => ?_
      exact (guarantees_number .operator trivial right).bind fun _ => guarantees_pure fun _ _ h => h
  | call =>
      cases left with
      | number x => exact guarantees_fail fun _ _ h => h.halt trivial trivial
      | pending name =>
          refine (hoperand _).bind fun argument => guarantees_closeParen.bind fun _ => ?_
          cases registry.function? name with
          | none => exact guarantees_fail fun _ _ h => h.halt trivial trivial
          | some function =>
              refine (guarantees_number .operator trivial argument).bind fun x => ?_
              exact (guarantees_applyFunction function x).bind fun _ =>
                guarantees_pure fun _ _ h => h

theorem guarantees_extend (threshold : Threshold) (turns : Nat) (left : Value) :
    Guarantees (Is limit input depth .operator) (extend registry operand threshold turns left)
      (fun _ => Is limit input depth .operator) (HasFailed limit input depth) := by
  induction turns generalizing left with
  | zero => exact guarantees_pure fun _ _ h => h
  | succ turns ih =>
      refine guarantees_peek.bind fun next => ?_
      cases hrole : next.kind.role with
      | mk power opens joins =>
          cases joins with
          | none => exact guarantees_pure fun _ _ h => h.1
          | some rule =>
              dsimp only
              split
              · have hadvance : Guarantees
                    (fun past stream => Is limit input depth .operator past stream ∧
                      stream.lookahead = next) advance
                    (fun token past stream => Is limit input depth (.joining token) past stream ∧
                      token.kind.role.joins = some rule) (HasFailed limit input depth) := by
                  rintro past stream ⟨h, rfl⟩
                  exact guarantees_advance_operator past stream ⟨h, by rw [hrole]⟩
                refine hadvance.bind fun token => ?_
                exact (guarantees_joinWith hoperand rule power token left).bind ih
              · exact guarantees_pure fun _ _ h => h.1

theorem guarantees_expressionWith (threshold : Threshold) :
    Guarantees (Is limit input depth .first) (expressionWith registry operand threshold)
      (fun _ => Is limit input depth .operator) (HasFailed limit input depth) := by
  refine guarantees_advance_first.bind fun token => ?_
  cases hrole : token.kind.role with
  | mk power opens joins =>
      cases opens with
      | none =>
          refine guarantees_fail ?_
          rintro past stream (h | ⟨_, h⟩) <;> exact h.halt trivial trivial
      | some rule =>
          have hopens : token.kind.role.opens = some rule := by rw [hrole]
          have hopen : Guarantees
              (fun past stream => Is limit input depth (.opening token) past stream ∨
                (token.kind = .endOfInput ∧ Is limit input depth .first past stream))
              (openWith registry operand rule power token)
              (fun _ => Is limit input depth .operator) (HasFailed limit input depth) := by
            rintro past stream (h | ⟨hend, _⟩)
            · exact guarantees_openWith hoperand hopens power past stream h
            · exact absurd hend (Kind.ne_endOfInput_of_opens hopens)
          refine hopen.bind fun first => guarantees_room.bind fun turns => ?_
          exact guarantees_extend hoperand threshold turns first

end Step

theorem guarantees_expression (registry : Registry) {limit : Nat} (input : String) {levels : Nat}
    (hlevels : levels ≤ limit) (threshold : Threshold) :
    Guarantees (Is limit input (limit - levels) .operand)
      (expression registry limit levels threshold)
      (fun _ => Is limit input (limit - levels) .operator)
      (HasFailed limit input (limit - levels)) := by
  induction levels generalizing threshold with
  | zero => exact guarantees_fail fun _ _ h => h.halt trivial trivial
  | succ levels ih =>
      -- the level that is used up is the depth that is entered
      have hdepth : limit - levels = limit - (levels + 1) + 1 := by omega
      have hbody := @guarantees_expressionWith _ _ _ registry _ (ih (by omega)) threshold
      rw [hdepth] at hbody
      have hwithin : expression registry limit (levels + 1) threshold =
          within (limit - (levels + 1) + 1)
            (expressionWith registry (expression registry limit levels) threshold) := by
        rw [← hdepth]
        rfl
      rw [hwithin]
      refine guarantees_within ?_ hbody ?_ ?_
      · rintro past stream ⟨taken, hreaches⟩
        exact ⟨taken, hreaches.move (.enter (by omega))⟩
      · rintro value past stream ⟨taken, hreaches⟩
        exact ⟨taken, hreaches.move .leave⟩
      · rintro error past ⟨taken, stream, hreaches⟩
        exact ⟨taken, stream, hreaches.move .leave⟩

/-- All tokens of a formula that has a value are taken. -/
theorem guarantees_whole (registry : Registry) (limit : Nat) (input : String) :
    Guarantees (Is limit input 0 .operand) (whole registry limit)
      (fun _ past stream => Is limit input 0 .operator past stream ∧
        stream.lookahead.kind = .endOfInput)
      (HasFailed limit input 0) := by
  have hexpression := guarantees_expression registry input (Nat.le_refl limit) .lowest
  rw [Nat.sub_self] at hexpression
  refine hexpression.bind fun value => guarantees_peek.bind fun trailing => ?_
  split
  · rename_i hend
    rintro past stream ⟨h, rfl⟩
    cases value with
    | number x => exact endsIn_pure ⟨h, hend⟩
    | pending name => exact endsIn_fail (h.halt trivial trivial)
  · exact guarantees_fail fun _ _ h => h.1.halt trivial trivial

end Evaluation

/-! ## Whole formulas -/

namespace Machine

/-- All that an evaluation of a formula can leave, and come to. -/
inductive Ran (limit : Nat) (input : String) : List Event → Except Error Float → Prop
  | unread {error : Error} (hread : (TokenStream.ofText input).outcome = .error error) :
      Ran limit input (.started input :: (TokenStream.ofText input).events) (.error error)
  | finished {past : List Event} {taken : List Token} {stream : TokenStream} (x : Float)
      (h : Reaches limit input past ⟨0, taken, .operator, stream⟩)
      (hend : stream.lookahead.kind = .endOfInput) :
      Ran limit input (past ++ [.finished input x]) (.ok x)
  | failed {past : List Event} {taken : List Token} {stream : TokenStream} {error : Error}
      (h : Reaches limit input past ⟨0, taken, .failed error, stream⟩) :
      Ran limit input past (.error error)

theorem ran_run (registry : Registry) (limit : Nat) (input : String) :
    Ran limit input (run registry limit input).events (run registry limit input).outcome := by
  have hstart : (Run.emit (.started input)).events = [.started input] := rfl
  unfold run
  rw [Run.events_bind_of_ok rfl, Run.outcome_bind_of_ok rfl, hstart, List.singleton_append]
  cases hread : (TokenStream.ofText input).outcome with
  | error error =>
      rw [Run.events_bind_of_error hread, Run.outcome_bind_of_error hread]
      exact .unread hread
  | ok stream =>
      rw [Run.events_bind_of_ok hread, Run.outcome_bind_of_ok hread, ← List.cons_append]
      have hends := Evaluation.guarantees_whole registry limit input _ stream ⟨[], .start hread⟩
      unfold Evaluation.EndsIn at hends
      cases hwhole : (Evaluation.whole registry limit stream).outcome with
      | error error =>
          rw [hwhole] at hends
          obtain ⟨taken, last, hreaches⟩ := hends
          rw [Run.events_bind_of_error hwhole, Run.outcome_bind_of_error hwhole]
          exact .failed hreaches
      | ok result =>
          rw [hwhole] at hends
          obtain ⟨⟨taken, hreaches⟩, hend⟩ := hends
          rw [Run.events_bind_of_ok hwhole, Run.outcome_bind_of_ok hwhole,
            Run.events_bind_of_ok rfl, Run.outcome_bind_of_ok rfl, ← List.append_assoc]
          exact .finished result.1 hreaches hend

/-! ## Single events -/

inductive Happens (limit : Nat) (input : String) : List Event → Event → Prop
  | start : Happens limit input [] (.started input)
  | read {event : Event} (hread : (TokenStream.ofText input).events = [event]) :
      Happens limit input [.started input] event
  | move {past : List Event} {event : Event} {config next : Config}
      (h : Reaches limit input past config) (hmove : Move limit config [event] next) :
      Happens limit input past event
  | finish {past : List Event} {taken : List Token} {stream : TokenStream} (x : Float)
      (h : Reaches limit input past ⟨0, taken, .operator, stream⟩)
      (hend : stream.lookahead.kind = .endOfInput) : Happens limit input past (.finished input x)

section Happens

variable {limit : Nat} {input : String} {front back : List Event} {event : Event}

/-- An event among some and one more is that one, or among the others. -/
theorem concat_eq_split {past : List Event} {last : Event}
    (h : past ++ [last] = front ++ event :: back) :
    (past = front ∧ last = event) ∨ ∃ rest, past = front ++ event :: rest := by
  rcases back.eq_nil_or_concat with rfl | ⟨rest, final, rfl⟩
  · exact .inl (List.concat_inj.1 (by simpa using h))
  · rw [List.concat_eq_append, ← List.cons_append, ← List.append_assoc] at h
    exact .inr ⟨rest, (List.append_inj' h rfl).1⟩

theorem happens_of_started
    (h : .started input :: (TokenStream.ofText input).events = front ++ event :: back) :
    Happens limit input front event := by
  obtain ⟨first, hfirst, _⟩ := TokenStream.exists_event_ofLexer (.ofText input)
  have hevents : (TokenStream.ofText input).events = [first] := hfirst
  rw [hevents] at h
  rcases @concat_eq_split _ _ _ [.started input] _ h with ⟨rfl, rfl⟩ | ⟨rest, hrest⟩
  · exact .read hevents
  · rcases List.singleton_eq_append_iff.1 hrest with ⟨rfl, hevent⟩ | ⟨_, hnone⟩
    · cases hevent
      exact .start
    · cases hnone

theorem Reaches.happens {past : List Event} {config : Config}
    (h : Reaches limit input past config) (hsplit : past = front ++ event :: back) :
    Happens limit input front event := by
  induction h generalizing back with
  | start => exact happens_of_started hsplit
  | move hreaches hmove ih =>
      rcases hmove.events_eq with rfl | ⟨last, rfl⟩
      · rw [List.append_nil] at hsplit
        exact ih hsplit
      · rcases concat_eq_split hsplit with ⟨rfl, rfl⟩ | ⟨rest, hrest⟩
        · exact .move hreaches hmove
        · exact ih hrest

/-- Each event of an evaluation is one that can happen behind those before it. -/
theorem Ran.happens {events : List Event} {outcome : Except Error Float}
    (h : Ran limit input events outcome) (hsplit : events = front ++ event :: back) :
    Happens limit input front event := by
  cases h with
  | unread => exact happens_of_started hsplit
  | failed h => exact h.happens hsplit
  | finished x h hend =>
      rcases concat_eq_split hsplit with ⟨rfl, rfl⟩ | ⟨rest, hrest⟩
      · exact .finish x h hend
      · exact h.happens hrest

end Happens

end Machine

end Formula
