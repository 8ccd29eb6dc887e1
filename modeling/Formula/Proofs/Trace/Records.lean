import Formula.Proofs.Likeness.Moved
import Formula.Proofs.Trace.Basic

/-!
# What is recorded of the tokens

Every token is recorded when it is read, and, unless it is a closing parenthesis,
once more when it opens an expression or joins.  Both happen in the order of the
tokens, and a token is read when the one before it is handled, not earlier.  Which
of the two a token does, is seen from the token before it.
-/

namespace Formula

open TokenStream (ofLexer Leaves)

/-! ## Records -/

/-- The token that opens an expression or joins. -/
def Event.handled? : Event → Option Token
  | .opened _ token | .joined _ token _ => some token
  | _ => none

/-- The events that the log shows. -/
def records (events : List Event) : List Event :=
  events.filter (·.line?.isSome)

/-- The event says what came of an evaluation: a value, or a character with which no token
starts. -/
def Event.IsVerdict : Event → Prop
  | .finished _ _ | .strayed _ => True
  | _ => False

/-- Nothing is said yet of what comes of an evaluation. -/
def Unsettled (events : List Event) : Prop :=
  ∀ event ∈ events, ¬ event.IsVerdict

/-- The last record says what came of an evaluation, if it is a value or a character with which
no token starts, and no other record does. -/
def Concludes (input : String) (records : List Event) : Except Error Float → Prop
  | .ok x => ∃ front, records = front ++ [.finished input x] ∧ Unsettled front
  | .error (.strayCharacter _ _) =>
      ∃ front cursor, records = front ++ [.strayed cursor] ∧ Unsettled front
  | .error _ => Unsettled records

/-- A token with which an operand is complete: a number, a name or a closing parenthesis. -/
def Kind.EndsOperand : Kind → Prop
  | .decimal | .integer | .name | .closeParen => True
  | _ => False

/-- A token behind which an operand is due: an operator or an opening parenthesis. -/
def Kind.AwaitsOperand : Kind → Prop
  | .plus | .minus | .star | .slash | .caret | .openParen => True
  | _ => False

/-- A token is handled when it and the one behind it, if there is one, are the last ones that are
read, and the tokens before it are handled, but for closing parentheses. -/
def Located (tokens : List Token) (earlier : List Event) (front : List Token) (token : Token) :
    Prop :=
  ∃ back, tokens = front ++ token :: back ∧
    earlier.filterMap Event.scanned? = front ++ token :: back.take 1 ∧
    earlier.filterMap Event.handled? = front.filter (·.kind ≠ .closeParen)

/-- A token opens an expression by the rule of its kind, in front or where an operand is due, and
joins by the rule of its kind where an operand is complete. -/
def Event.Suits (tokens : List Token) (earlier : List Event) : Event → Prop
  | .opened rule token =>
      token.kind.role.opens = some rule ∧ ∃ front, Located tokens earlier front token ∧
        ∀ last ∈ front.getLast?, last.kind.AwaitsOperand
  | .joined rule token _ =>
      token.kind.role.joins = some rule ∧ ∃ front, Located tokens earlier front token ∧
        ∃ last ∈ front.getLast?, last.kind.EndsOperand
  | _ => True

theorem map_log (events : List Event) :
    (log events).map some = (records events).map Event.line? := by
  rw [log, List.map_filterMap_some_eq_filter_map_isSome, List.filter_map]
  rfl

theorem records_append (front back : List Event) :
    records (front ++ back) = records front ++ records back :=
  List.filter_append front back

theorem Unsettled.records {events : List Event} (h : Unsettled events) :
    Unsettled (records events) :=
  fun event hmem => h event (List.mem_of_mem_filter hmem)

theorem Unsettled.append {front back : List Event} (hfront : Unsettled front)
    (hback : Unsettled back) : Unsettled (front ++ back) :=
  List.forall_mem_append.2 ⟨hfront, hback⟩

theorem concludes_of_ofEvaluation {input : String} {records : List Event} {error : Error}
    (herror : error.OfEvaluation) (h : Unsettled records) :
    Concludes input records (.error error) := by
  cases error with
  | strayCharacter => cases herror
  | _ => exact h

theorem Kind.awaitsOperand_of_joins {kind : Kind} {rule : Joining}
    (h : kind.role.joins = some rule) : kind.AwaitsOperand := by
  cases kind with
  | plus | minus | star | slash | caret | openParen => trivial
  | _ => cases h

theorem Kind.ne_closeParen_of_opens {kind : Kind} {rule : Opening}
    (h : kind.role.opens = some rule) : kind ≠ .closeParen := by
  rintro rfl
  cases h

theorem Kind.ne_closeParen_of_joins {kind : Kind} {rule : Joining}
    (h : kind.role.joins = some rule) : kind ≠ .closeParen := by
  rintro rfl
  cases h

theorem filterMap_finished (find : Event → Option Token)
    (hfind : ∀ input x, find (.finished input x) = none) (past : List Event) (input : String)
    (x : Float) : (past ++ [Event.finished input x]).filterMap find = past.filterMap find := by
  rw [List.filterMap_append, List.filterMap_cons_none (hfind input x), List.filterMap_nil,
    List.append_nil]

/-! ## Reading -/

section Reading

variable {lexer : Lexer} {stream : TokenStream} {event : Event}

theorem Event.OnlyReads.handled? (h : event.OnlyReads) : event.handled? = none := by
  cases h <;> rfl

theorem handled_ofLexer (lexer : Lexer) :
    (ofLexer lexer).events.filterMap Event.handled? = [] := by
  obtain ⟨event, hevents, hreads⟩ := TokenStream.exists_event_ofLexer lexer
  simp [hevents, hreads.handled?]

theorem scanned_ofLexer (h : (ofLexer lexer).outcome = .ok stream) :
    (ofLexer lexer).events.filterMap Event.scanned? ++ stream.beyond.tokens =
      lexer.remainder.tokens := by
  have hscans := TokenStream.scans lexer
  unfold TokenStream.ofLexer at h ⊢
  generalize TokenStream.scan lexer = scanned at h hscans
  cases hscans with
  | token hremainder =>
      cases h
      rw [hremainder]
      rfl
  | ended hremainder hafter =>
      cases h
      rw [hremainder, TokenStream.beyond, hafter]
      rfl
  | stray => cases h

theorem unsettled_ofLexer (h : (ofLexer lexer).outcome = .ok stream) :
    Unsettled (ofLexer lexer).events := by
  have hscans := TokenStream.scans lexer
  unfold TokenStream.ofLexer at h ⊢
  generalize TokenStream.scan lexer = scanned at h hscans
  cases hscans with
  | token | ended => exact List.forall_mem_singleton.2 not_false
  | stray => cases h

/-- A stream has all tokens that it is read from but the first one still to be read. -/
theorem drop_one_of_ofLexer (h : (ofLexer lexer).outcome = .ok stream) :
    lexer.remainder.tokens.drop 1 = stream.beyond.tokens := by
  rcases TokenStream.outcome_ofLexer_eq_ok h with hremainder | ⟨_, hremainder, _, hbeyond⟩
  · rw [hremainder]
    rfl
  · rw [hremainder, hbeyond]
    rfl

/-- The end comes in sight only where no token is left. -/
theorem eq_nil_of_ofLexer (h : (ofLexer lexer).outcome = .ok stream)
    (hend : stream.lookahead.kind = .endOfInput) : lexer.remainder.tokens = [] := by
  rcases TokenStream.outcome_ofLexer_eq_ok h with hremainder | ⟨_, hremainder, _⟩
  · exact absurd hend (lexer.kind_ne_endOfInput _ (by simp [hremainder]))
  · rw [hremainder]

/-- A character with which no token starts is read where no token is left. -/
theorem strayed_ofLexer {error : Error} (h : (ofLexer lexer).outcome = .error error) :
    ∃ cursor text position, (ofLexer lexer).events = [.strayed cursor] ∧
      error = .strayCharacter text position ∧ lexer.remainder.tokens = [] := by
  have hscans := TokenStream.scans lexer
  unfold TokenStream.ofLexer at h ⊢
  generalize TokenStream.scan lexer = scanned at h hscans
  cases hscans with
  | token | ended => cases h
  | stray hremainder =>
      cases h
      exact ⟨_, _, _, rfl, rfl, by rw [hremainder]⟩

end Reading

/-! ## What every move keeps -/

namespace Machine

section Keeps

variable {limit : Nat} {input : String} {past events : List Event} {config next : Config}
  {outcome : Except Error Float}

/-- What is read and what is not are all tokens that there are. -/
theorem Move.scanned (h : Move limit config events next) :
    events.filterMap Event.scanned? ++ next.stream.beyond.tokens =
      config.stream.beyond.tokens := by
  cases h with
  | enter | opens | joins | apply | leave | halt => rfl
  | takeFirst _ hread | takeOperator _ hread | close _ hread => exact scanned_ofLexer hread
  | stray _ _ hread =>
      obtain ⟨cursor, text, position, hevents, _, _⟩ := strayed_ofLexer hread
      rw [hevents]
      rfl

theorem Reaches.scanned (h : Reaches limit input past config) :
    past.filterMap Event.scanned? ++ config.stream.beyond.tokens =
      (Scan.ofText input).tokens := by
  induction h with
  | start hread => exact scanned_ofLexer hread
  | move _ hmove ih => rw [List.filterMap_append, List.append_assoc, hmove.scanned, ih]

/-- What is handled are the tokens that are done with, but for closing parentheses. -/
theorem Move.handled (h : Move limit config events next) :
    ∃ more, next.taken = config.taken ++ more ∧
      events.filterMap Event.handled? = more.filter (·.kind ≠ .closeParen) := by
  cases h with
  | enter | apply | leave | halt => exact ⟨[], (List.append_nil _).symm, rfl⟩
  | takeFirst | takeOperator | stray =>
      exact ⟨[], (List.append_nil _).symm, handled_ofLexer _⟩
  | @opens _ _ _ token _ hopens =>
      exact ⟨[token], rfl, by simp [Event.handled?, Kind.ne_closeParen_of_opens hopens]⟩
  | @joins _ _ _ token _ _ hjoins =>
      exact ⟨[token], rfl, by simp [Event.handled?, Kind.ne_closeParen_of_joins hjoins]⟩
  | @close _ _ stream _ hkind =>
      exact ⟨[stream.lookahead], rfl, by simp [handled_ofLexer, hkind]⟩

theorem Reaches.handled (h : Reaches limit input past config) :
    past.filterMap Event.handled? = config.taken.filter (·.kind ≠ .closeParen) := by
  induction h with
  | start => exact handled_ofLexer _
  | move _ hmove ih =>
      obtain ⟨more, hmore, hevents⟩ := hmove.handled
      rw [List.filterMap_append, ih, hevents, hmore, List.filter_append]

/-- What the last of the tokens that are done with is, if there is one. -/
def Phase.Fits : Phase → Option Token → Prop
  | .operand, last | .first, last | .opening _, last =>
      ∀ token ∈ last, token.kind.AwaitsOperand
  | .operator, last | .joining _, last => ∃ token ∈ last, token.kind.EndsOperand
  | .failed _, _ => True

theorem Phase.fits_behind {token : Token} {rule : Opening}
    (h : token.kind.role.opens = some rule) : (Phase.behind rule).Fits (some token) := by
  obtain ⟨kind, text, position⟩ := token
  cases kind with
  | decimal | integer | name =>
      cases h
      exact ⟨_, rfl, trivial⟩
  | minus | openParen =>
      cases h
      rintro _ ⟨⟩
      trivial
  | _ => cases h

theorem Move.fits (h : Move limit config events next)
    (hfits : config.phase.Fits config.taken.getLast?) :
    next.phase.Fits next.taken.getLast? := by
  cases h with
  | enter | takeFirst | takeOperator | apply | leave => exact hfits
  | stray | halt => trivial
  | opens hopens =>
      rw [List.getLast?_concat]
      exact Phase.fits_behind hopens
  | joins left hjoins =>
      rw [List.getLast?_concat]
      rintro _ ⟨⟩
      exact Kind.awaitsOperand_of_joins hjoins
  | @close _ _ stream _ hkind =>
      rw [List.getLast?_concat]
      refine ⟨stream.lookahead, rfl, ?_⟩
      rw [hkind]
      trivial

theorem Reaches.fits (h : Reaches limit input past config) :
    config.phase.Fits config.taken.getLast? := by
  induction h with
  | start => exact nofun
  | move _ hmove ih => exact hmove.fits ih

def Phase.Concludes (input : String) (records : List Event) : Phase → Prop
  | .failed error => Formula.Concludes input records (.error error)
  | _ => Unsettled records

theorem Phase.Live.concludes_iff {phase : Phase} (h : phase.Live) {records : List Event} :
    phase.Concludes input records ↔ Unsettled records := by
  cases phase with
  | failed => cases h
  | _ => rfl

theorem Phase.live_behind (rule : Opening) : (Phase.behind rule).Live := by
  cases rule <;> trivial

theorem Move.concludes (h : Move limit config events next)
    (hpast : config.phase.Concludes input (records past)) :
    next.phase.Concludes input (records (past ++ events)) := by
  rw [records_append]
  cases h with
  | enter | joins | apply =>
      exact hpast.append (Unsettled.records (List.forall_mem_singleton.2 not_false))
  | @opens _ _ _ _ rule hopens =>
      rw [(Phase.live_behind rule).concludes_iff]
      exact hpast.append (Unsettled.records (List.forall_mem_singleton.2 not_false))
  | takeFirst _ hread | takeOperator _ hread | close _ hread =>
      exact hpast.append (unsettled_ofLexer hread).records
  | @leave depth =>
      have hnone : records [.exited (depth + 1)] = [] := rfl
      rw [hnone, List.append_nil]
      exact hpast
  | stray hlive _ hread =>
      obtain ⟨cursor, text, position, hevents, rfl, _⟩ := strayed_ofLexer hread
      rw [hevents]
      exact ⟨_, cursor, rfl, hlive.concludes_iff.1 hpast⟩
  | halt hlive herror =>
      have hnone : records [] = [] := rfl
      rw [hnone, List.append_nil]
      exact concludes_of_ofEvaluation herror (hlive.concludes_iff.1 hpast)

theorem Reaches.concludes (h : Reaches limit input past config) :
    config.phase.Concludes input (records past) := by
  induction h with
  | start hread =>
      have hstarted : Unsettled [.started input] := List.forall_mem_singleton.2 not_false
      exact (hstarted.append (unsettled_ofLexer hread)).records
  | move _ hmove ih => exact hmove.concludes ih

/-- An event about a token is left where the token is taken, by the rule of its kind. -/
theorem Move.of_handled (h : Move limit config events next) {event : Event}
    (hevents : events = [event]) :
    match event with
    | .opened rule token => config.phase = .opening token ∧ token.kind.role.opens = some rule
    | .joined rule token _ => config.phase = .joining token ∧ token.kind.role.joins = some rule
    | _ => True := by
  cases h with
  | enter | apply | leave =>
      cases hevents
      trivial
  | halt => cases hevents
  | opens hopens =>
      cases hevents
      exact ⟨rfl, hopens⟩
  | joins left hjoins =>
      cases hevents
      exact ⟨rfl, hjoins⟩
  | takeFirst | takeOperator | close | stray =>
      obtain ⟨_, hread, hreads⟩ := TokenStream.exists_event_ofLexer _
      rw [hread] at hevents
      cases hevents
      cases hreads <;> trivial

theorem Reaches.located (h : Reaches limit input past config) (hlive : config.phase.Live)
    {token : Token} (hpending : config.phase.pending = [token]) :
    Located (Scan.ofText input).tokens past config.taken token := by
  obtain ⟨pending, ⟨left, lexer, htokens, hremainder, hread⟩, hphase⟩ := h.leaves
  obtain rfl := (hphase hlive).trans hpending
  have hscanned := h.scanned
  rw [List.append_assoc, List.singleton_append] at htokens
  refine ⟨left, htokens, ?_, h.handled⟩
  -- what is read is all but what the stream has behind the token in sight
  rw [htokens, ← drop_one_of_ofLexer hread, hremainder] at hscanned
  refine List.append_cancel_right (hscanned.trans ?_)
  rw [List.append_assoc, List.cons_append, List.take_append_drop]

/-- Whatever happens about a token, happens where the token is due. -/
theorem Happens.suits {event : Event} (h : Happens limit input past event) :
    event.Suits (Scan.ofText input).tokens past := by
  cases h with
  | start | finish => trivial
  | read hread =>
      obtain ⟨first, hfirst, hreads⟩ := TokenStream.exists_event_ofLexer (.ofText input)
      cases hread.symm.trans hfirst
      cases hreads <;> trivial
  | @move _ _ config _ h hmove =>
      have hhandled := hmove.of_handled rfl
      have hfits := h.fits
      cases event with
      | opened rule token =>
          obtain ⟨hphase, hopens⟩ := hhandled
          rw [hphase] at hfits
          exact ⟨hopens, config.taken, h.located (by simp [hphase, Phase.Live])
            (by simp [hphase, Phase.pending]), hfits⟩
      | joined rule token left =>
          obtain ⟨hphase, hjoins⟩ := hhandled
          rw [hphase] at hfits
          exact ⟨hjoins, config.taken, h.located (by simp [hphase, Phase.Live])
            (by simp [hphase, Phase.pending]), hfits⟩
      | _ => trivial

theorem Reaches.started (h : Reaches limit input past config) :
    ∃ rest, past = .started input :: rest := by
  induction h with
  | start => exact ⟨_, rfl⟩
  | move _ _ ih =>
      obtain ⟨rest, rfl⟩ := ih
      exact ⟨_, rfl⟩

theorem Ran.started (h : Ran limit input events outcome) :
    ∃ rest, records events = .started input :: rest := by
  have hstarted : ∃ rest, events = .started input :: rest := by
    cases h with
    | unread => exact ⟨_, rfl⟩
    | failed h => exact h.started
    | finished x h =>
        obtain ⟨rest, rfl⟩ := h.started
        exact ⟨_, rfl⟩
  obtain ⟨rest, rfl⟩ := hstarted
  exact ⟨records rest, rfl⟩

theorem Ran.concludes (h : Ran limit input events outcome) :
    Concludes input (records events) outcome := by
  cases h with
  | unread hread =>
      obtain ⟨cursor, text, position, hevents, rfl, _⟩ := strayed_ofLexer hread
      rw [TokenStream.ofText, hevents]
      exact ⟨[.started input], cursor, rfl, List.forall_mem_singleton.2 not_false⟩
  | failed h => exact h.concludes
  | finished x h =>
      rw [records_append]
      exact ⟨_, rfl, h.concludes⟩

/-- Tokens are read and handled in order. -/
theorem Reaches.prefixes (h : Reaches limit input past config) :
    past.filterMap Event.scanned? <+: (Scan.ofText input).tokens ∧
      past.filterMap Event.handled? <+:
        (Scan.ofText input).tokens.filter (·.kind ≠ .closeParen) := by
  refine ⟨⟨_, h.scanned⟩, ?_⟩
  obtain ⟨pending, ⟨left, _, htokens, _⟩, _⟩ := h.leaves
  have htaken : config.taken <+: (Scan.ofText input).tokens := by
    rw [htokens, List.append_assoc]
    exact List.prefix_append _ _
  rw [h.handled]
  exact htaken.filter _

theorem Ran.prefixes (h : Ran limit input events outcome) :
    events.filterMap Event.scanned? <+: (Scan.ofText input).tokens ∧
      events.filterMap Event.handled? <+:
        (Scan.ofText input).tokens.filter (·.kind ≠ .closeParen) := by
  cases h with
  | unread hread =>
      obtain ⟨cursor, text, position, hevents, _, _⟩ := strayed_ofLexer hread
      rw [TokenStream.ofText, hevents]
      exact ⟨List.nil_prefix, List.nil_prefix⟩
  | failed h => exact h.prefixes
  | finished x h =>
      rw [filterMap_finished Event.scanned? fun _ _ => rfl,
        filterMap_finished Event.handled? fun _ _ => rfl]
      exact h.prefixes

/-- A formula that has a value is read, and its tokens are handled, to the end. -/
theorem Ran.whole {x : Float} (h : Ran limit input events (.ok x)) :
    events.filterMap Event.scanned? = (Scan.ofText input).tokens ∧
      events.filterMap Event.handled? =
        (Scan.ofText input).tokens.filter (·.kind ≠ .closeParen) := by
  cases h with
  | @finished past taken stream _ h hend =>
      obtain ⟨pending, ⟨left, lexer, htokens, hremainder, hread⟩, hpending⟩ := h.leaves
      obtain rfl : pending = [] := hpending trivial
      rw [List.append_nil] at htokens
      have hleft : left = [] := by
        have hnil := eq_nil_of_ofLexer hread hend
        rw [hremainder] at hnil
        exact hnil
      have hscanned := h.scanned
      rw [← drop_one_of_ofLexer hread, hremainder, hleft, List.drop_nil, List.append_nil]
        at hscanned
      rw [hleft, List.append_nil] at htokens
      rw [filterMap_finished Event.scanned? fun _ _ => rfl,
        filterMap_finished Event.handled? fun _ _ => rfl, hscanned, h.handled, htokens]
      exact ⟨rfl, rfl⟩

end Keeps

end Machine

/-- The log accounts for the tokens of a formula.

Tokens are recorded as they are read, in order and once each, and once more, but for closing
parentheses, as they open an expression or join; if the formula has a value, all of them are.
Which of the two a token does, and by which rule, is given by its kind and the token before it, and
it does it when the token behind it is the last one that is read.  The records start with the
formula; the last one says what came of it if that is a value or a stray character, and no other
one does. -/
theorem run_records_tokens (registry : Registry) (limit : Nat) (input : String) :
    let tokens := (Scan.ofText input).tokens
    let run := run registry limit input
    let handled := run.events.filterMap Event.handled?
    (run.scanned <+: tokens ∧ handled <+: tokens.filter (·.kind ≠ .closeParen)) ∧
    (∀ x, run.outcome = .ok x →
      run.scanned = tokens ∧ handled = tokens.filter (·.kind ≠ .closeParen)) ∧
    (∀ earlier event later, run.events = earlier ++ event :: later →
      event.Suits tokens earlier) ∧
    (log run.events).map some = (records run.events).map Event.line? ∧
    (∃ rest, records run.events = .started input :: rest) ∧
    Concludes input (records run.events) run.outcome := by
  have hran := Machine.ran_run registry limit input
  refine ⟨hran.prefixes, ?_, fun _ _ _ hsplit => (hran.happens hsplit).suits, map_log _,
    hran.started, hran.concludes⟩
  intro x houtcome
  rw [houtcome] at hran
  exact hran.whole

/-- A token is read behind each one that is handled, and the parenthesis is not handled. -/
example : (run .empty 4 "-x)").events =
    [.started "-x)", .scanned ⟨.minus, "-", 0⟩,
      .entered 1, .scanned ⟨.name, "x", 1⟩, .opened .negate ⟨.minus, "-", 0⟩,
      .entered 2, .scanned ⟨.closeParen, ")", 2⟩, .opened .name ⟨.name, "x", 1⟩,
      .exited 2, .exited 1] := by
  decide +kernel

end Formula
