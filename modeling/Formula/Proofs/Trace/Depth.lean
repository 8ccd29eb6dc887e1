import Formula.Proofs.Trace.Basic

/-!
# How long and how deep an evaluation goes

Each expression that is entered and each token that joins takes a token, up to the
expression in which an evaluation fails.  So there is at most one more of them than
there are tokens.  The depth of expressions is counted in a machine word, which goes
up when an expression is entered and down when it is left, with a value or not.
-/

namespace Formula

open TokenStream (Leaves)

/-! ## Counting -/

/-- Is an expression entered, or does a token join? -/
def Event.isTurn : Event → Bool
  | .entered _ | .joined _ _ _ => true
  | _ => false

def turns (events : List Event) : Nat :=
  events.countP Event.isTurn

/-- The depth after an event.  There is none if it is not the depth that is recorded, does not
fit into a machine word, or would fall below zero. -/
def Event.count? (depth : Nat) : Event → Option Nat
  | .entered recorded =>
      if recorded = depth + 1 ∧ recorded < UInt64.size then some recorded else none
  | .exited recorded => if recorded = depth ∧ 0 < depth then some (depth - 1) else none
  | _ => some depth

def depthAfter (events : List Event) : Option Nat :=
  events.foldlM Event.count? 0

section Count

variable {event : Event} {recorded depth start finish : Nat} {events front back : List Event}

theorem Event.count?_entered_eq_some_iff :
    (Event.entered recorded).count? depth = some finish ↔
      recorded = depth + 1 ∧ recorded < UInt64.size ∧ finish = recorded := by
  simp [count?, and_assoc, eq_comm]

theorem Event.count?_exited_eq_some_iff :
    (Event.exited recorded).count? depth = some finish ↔
      recorded = depth ∧ depth = finish + 1 := by
  show (if recorded = depth ∧ 0 < depth then some (depth - 1) else none) = some finish ↔ _
  split
  · rw [Option.some_inj]
    omega
  · simp only [reduceCtorEq, false_iff]
    omega

theorem Event.OnlyReads.isTurn (h : event.OnlyReads) : event.isTurn = false := by
  cases h <;> rfl

theorem Event.OnlyReads.count? (h : event.OnlyReads) (depth : Nat) :
    event.count? depth = some depth := by
  cases h <;> rfl

theorem turns_append (front back : List Event) : turns (front ++ back) = turns front + turns back :=
  List.countP_append

theorem turns_ofLexer (lexer : Lexer) : turns (TokenStream.ofLexer lexer).events = 0 := by
  obtain ⟨event, hevents, hreads⟩ := TokenStream.exists_event_ofLexer lexer
  simp [turns, hevents, hreads.isTurn]

theorem foldlM_count?_ofLexer (lexer : Lexer) (depth : Nat) :
    (TokenStream.ofLexer lexer).events.foldlM Event.count? depth = some depth := by
  obtain ⟨event, hevents, hreads⟩ := TokenStream.exists_event_ofLexer lexer
  simp [hevents, hreads.count?]

theorem foldlM_count?_cons :
    (event :: events).foldlM Event.count? start = some finish ↔
      ∃ middle, event.count? start = some middle ∧
        events.foldlM Event.count? middle = some finish := by
  rw [List.foldlM_cons]
  exact Option.bind_eq_some_iff

theorem depthAfter_append (hfront : depthAfter front = some depth) (back : List Event) :
    depthAfter (front ++ back) = back.foldlM Event.count? depth := by
  unfold depthAfter at hfront ⊢
  rw [List.foldlM_append, hfront]
  rfl

/-- An event goes no deeper than by the turn that it is. -/
theorem Event.count?_le (h : event.count? depth = some finish) :
    finish ≤ depth + if event.isTurn then 1 else 0 := by
  cases event with
  | entered recorded =>
      obtain ⟨rfl, _, rfl⟩ := count?_entered_eq_some_iff.1 h
      exact Nat.le_refl _
  | exited recorded =>
      obtain ⟨_, rfl⟩ := count?_exited_eq_some_iff.1 h
      omega
  | _ =>
      cases h
      exact Nat.le_add_right _ _

theorem depth_le_turns (h : events.foldlM Event.count? start = some finish) :
    finish ≤ start + turns events := by
  induction events generalizing start with
  | nil =>
      cases h
      exact Nat.le_add_right _ _
  | cons event events ih =>
      obtain ⟨middle, hevent, hrest⟩ := foldlM_count?_cons.1 h
      have hmiddle := Event.count?_le hevent
      have hfinish := ih hrest
      unfold turns at hfinish ⊢
      rw [List.countP_cons]
      omega

/-- The depth falls below a bound only where an expression of that depth is left. -/
theorem Event.eq_exited_of_count?_lt (h : event.count? start = some finish)
    (hstart : depth ≤ start) (hfinish : finish < depth) :
    event = .exited depth ∧ start = depth := by
  cases event with
  | entered recorded =>
      obtain ⟨rfl, _, rfl⟩ := count?_entered_eq_some_iff.1 h
      omega
  | exited recorded =>
      obtain ⟨rfl, hrecorded⟩ := count?_exited_eq_some_iff.1 h
      have hdepth : recorded = depth := by omega
      exact ⟨by rw [hdepth], hdepth⟩
  | _ =>
      cases h
      omega

/-- Events that lead back to depth zero leave each expression on the way. -/
theorem exists_exited (hdepth : 0 < depth) (hstart : depth ≤ start)
    (h : events.foldlM Event.count? start = some 0) :
    ∃ body back, events = body ++ .exited depth :: back ∧
      body.foldlM Event.count? start = some depth ∧
      ∀ inner, inner <+: body → ∃ middle, inner.foldlM Event.count? start = some middle ∧
        depth ≤ middle := by
  induction events generalizing start with
  | nil =>
      cases h
      omega
  | cons event events ih =>
      obtain ⟨middle, hevent, hrest⟩ := foldlM_count?_cons.1 h
      by_cases hmiddle : depth ≤ middle
      · obtain ⟨body, back, rfl, hbody, hinner⟩ := ih hmiddle hrest
        refine ⟨event :: body, back, rfl, foldlM_count?_cons.2 ⟨middle, hevent, hbody⟩, ?_⟩
        intro inner hfront
        rcases List.prefix_cons_iff.1 hfront with rfl | ⟨rest, rfl, hrest⟩
        · exact ⟨start, rfl, hstart⟩
        · obtain ⟨last, hlast, hle⟩ := hinner rest hrest
          exact ⟨last, foldlM_count?_cons.2 ⟨middle, hevent, hlast⟩, hle⟩
      · -- this is the first event with which the depth falls below the bound
        obtain ⟨rfl, rfl⟩ := Event.eq_exited_of_count?_lt hevent hstart (by omega)
        refine ⟨[], events, rfl, rfl, ?_⟩
        intro inner hfront
        rw [List.prefix_nil.1 hfront]
        exact ⟨start, rfl, Nat.le_refl _⟩

end Count

/-! ## What every move keeps -/

namespace Machine

section Keeps

variable {limit : Nat} {input : String} {past events : List Event} {config next : Config}
  {outcome : Except Error Float}

/-- How many turns are ahead of the tokens that are done with. -/
def Phase.ahead : Phase → Nat
  | .first | .opening _ | .failed _ => 1
  | _ => 0

theorem Phase.ahead_le (phase : Phase) : phase.ahead ≤ 1 := by
  unfold ahead
  split <;> decide

/-- A turn takes a token, or is ahead of one. -/
theorem Move.turns_le (h : Move limit config events next) :
    config.taken.length + config.phase.ahead + turns events ≤
      next.taken.length + next.phase.ahead := by
  cases h with
  | enter | apply | leave => exact Nat.le_refl _
  | takeFirst | takeOperator => simp [turns_ofLexer, Phase.ahead]
  | opens => simp [turns, Event.isTurn, Phase.ahead]
  | joins => simp [turns, Event.isTurn, Phase.ahead]
  | close => simp [turns_ofLexer, Phase.ahead]
  | @stray _ _ _ phase =>
      rw [turns_ofLexer]
      exact Nat.add_le_add_left phase.ahead_le _
  | @halt _ _ _ phase => exact Nat.add_le_add_left phase.ahead_le _

theorem Reaches.turns_le (h : Reaches limit input past config) :
    turns past ≤ config.taken.length + config.phase.ahead := by
  induction h with
  | start => exact Nat.le_of_eq (turns_ofLexer _)
  | move _ hmove ih =>
      have hstep := hmove.turns_le
      rw [turns_append]
      omega

theorem Reaches.taken_length_le (h : Reaches limit input past config) :
    config.taken.length ≤ (Scan.ofText input).tokens.length := by
  obtain ⟨pending, ⟨left, _, htokens, _⟩, _⟩ := h.leaves
  rw [htokens, List.append_assoc, List.length_append]
  exact Nat.le_add_right _ _

theorem Ran.turns_le (h : Ran limit input events outcome) :
    turns events ≤ (Scan.ofText input).tokens.length + 1 := by
  have hreached : ∀ {past : List Event} {config : Config}, Reaches limit input past config →
      turns past ≤ (Scan.ofText input).tokens.length + 1 := by
    intro past config h
    have hturns := h.turns_le
    have htaken := h.taken_length_le
    have hahead := config.phase.ahead_le
    omega
  cases h with
  | unread =>
      show turns ([.started input] ++ (TokenStream.ofText input).events) ≤ _
      rw [turns_append, TokenStream.ofText, turns_ofLexer]
      exact Nat.zero_le _
  | finished x h =>
      rw [turns_append]
      exact hreached h
  | failed h => exact hreached h

/-- A move counts the depth up and down, within the limit. -/
theorem Move.depth (h : Move limit config events next) (hlimit : limit < UInt64.size)
    (hdepth : config.depth ≤ limit) :
    events.foldlM Event.count? config.depth = some next.depth ∧ next.depth ≤ limit := by
  cases h with
  | enter henter =>
      have hcount := Event.count?_entered_eq_some_iff.2 ⟨rfl, Nat.lt_of_le_of_lt henter hlimit, rfl⟩
      exact ⟨foldlM_count?_cons.2 ⟨_, hcount, rfl⟩, henter⟩
  | @leave depth =>
      have hcount : (Event.exited (depth + 1)).count? (depth + 1) = some depth :=
        Event.count?_exited_eq_some_iff.2 ⟨rfl, rfl⟩
      exact ⟨foldlM_count?_cons.2 ⟨_, hcount, rfl⟩, Nat.le_of_succ_le hdepth⟩
  | opens | joins | apply | halt => exact ⟨rfl, hdepth⟩
  | takeFirst | takeOperator | close | stray => exact ⟨foldlM_count?_ofLexer _ _, hdepth⟩

theorem depthAfter_started (input : String) :
    depthAfter (.started input :: (TokenStream.ofText input).events) = some 0 :=
  foldlM_count?_cons.2 ⟨0, rfl, foldlM_count?_ofLexer _ 0⟩

theorem Reaches.depth (h : Reaches limit input past config) (hlimit : limit < UInt64.size) :
    depthAfter past = some config.depth ∧ config.depth ≤ limit := by
  induction h with
  | start => exact ⟨depthAfter_started input, Nat.zero_le _⟩
  | move _ hmove ih =>
      obtain ⟨hpast, hle⟩ := ih
      rw [depthAfter_append hpast]
      exact hmove.depth hlimit hle

/-- After each event there is a depth, within the limit. -/
theorem Happens.depth {event : Event} (h : Happens limit input past event)
    (hlimit : limit < UInt64.size) :
    ∃ depth, depthAfter (past ++ [event]) = some depth ∧ depth ≤ limit := by
  cases h with
  | start => exact ⟨0, rfl, Nat.zero_le _⟩
  | read hread =>
      have hstarted := depthAfter_started input
      rw [hread] at hstarted
      exact ⟨0, hstarted, Nat.zero_le _⟩
  | move h hmove =>
      obtain ⟨hdepth, hle⟩ := (h.move hmove).depth hlimit
      exact ⟨_, hdepth, hle⟩
  | finish x h =>
      obtain ⟨hdepth, _⟩ := h.depth hlimit
      exact ⟨0, depthAfter_append hdepth _, Nat.zero_le _⟩

theorem Ran.depth_of_prefix (h : Ran limit input events outcome) (hlimit : limit < UInt64.size)
    {front : List Event} (hfront : front <+: events) :
    ∃ depth, depthAfter front = some depth ∧ depth ≤ limit := by
  obtain ⟨back, rfl⟩ := hfront
  rcases front.eq_nil_or_concat with rfl | ⟨past, event, rfl⟩
  · exact ⟨0, rfl, Nat.zero_le _⟩
  · rw [List.concat_eq_append] at h ⊢
    exact (h.happens (List.append_assoc _ _ _)).depth hlimit

/-- In the end all expressions are left. -/
theorem Ran.depth (h : Ran limit input events outcome) (hlimit : limit < UInt64.size) :
    depthAfter events = some 0 := by
  cases h with
  | unread => exact depthAfter_started input
  | failed h => exact (h.depth hlimit).1
  | finished x h => exact depthAfter_append (h.depth hlimit).1 _

/-- An expression that is entered is left, and in between it is as deep, or deeper. -/
theorem Ran.exists_exited (h : Ran limit input events outcome) (hlimit : limit < UInt64.size)
    {front rest : List Event} {depth : Nat} (hsplit : events = front ++ .entered depth :: rest) :
    ∃ body back, rest = body ++ .exited depth :: back ∧
      depthAfter (front ++ .entered depth :: body ++ [.exited depth]) = depthAfter front ∧
      ∀ inner, inner <+: body → ∃ middle,
        depthAfter (front ++ .entered depth :: inner) = some middle ∧ depth ≤ middle := by
  -- in the end the depth is zero, so it falls below that of the expression
  have hevents := h.depth hlimit
  obtain ⟨before, hbefore, _⟩ := h.depth_of_prefix hlimit ⟨_, hsplit.symm⟩
  rw [hsplit, depthAfter_append hbefore] at hevents
  obtain ⟨_, hentered, hrest⟩ := foldlM_count?_cons.1 hevents
  obtain ⟨rfl, _, rfl⟩ := Event.count?_entered_eq_some_iff.1 hentered
  obtain ⟨body, back, rfl, hbody, hinner⟩ :=
    Formula.exists_exited (Nat.succ_pos before) (Nat.le_refl _) hrest
  refine ⟨body, back, rfl, ?_, ?_⟩
  · have hinside : depthAfter (front ++ .entered (before + 1) :: body) = some (before + 1) := by
      rw [depthAfter_append hbefore]
      exact foldlM_count?_cons.2 ⟨_, hentered, hbody⟩
    rw [depthAfter_append hinside, hbefore]
    exact foldlM_count?_cons.2 ⟨before, Event.count?_exited_eq_some_iff.2 ⟨rfl, rfl⟩, rfl⟩
  · intro inner hfront
    obtain ⟨middle, hmiddle, hle⟩ := hinner inner hfront
    refine ⟨middle, ?_, hle⟩
    rw [depthAfter_append hbefore]
    exact foldlM_count?_cons.2 ⟨_, hentered, hmiddle⟩

end Keeps

end Machine

open Evaluation in
/-- Every evaluation ends, after at most one turn more than there are tokens, and its depth is
counted safely.

The events of an evaluation enter and leave expressions as deep as the counter says: it is within
the limit and at most one more than the number of tokens, so it always fits into its word; and it
is not zero when an expression is left.  An expression that is entered is left with the depth that
there was before, whatever comes of it.  The loop that joins tokens has room for as many turns as
it could take. -/
theorem run_bounded (registry : Registry) (limit : UInt64) (input : String) :
    let length := (Scan.ofText input).tokens.length
    let events := (run registry limit.toNat input).events
    turns events ≤ length + 1 ∧
    (∀ front, front <+: events →
      ∃ depth, depthAfter front = some depth ∧ depth ≤ min limit.toNat (length + 1)) ∧
    (∀ front depth rest, events = front ++ .entered depth :: rest →
      ∃ body back, rest = body ++ .exited depth :: back ∧
        depthAfter (front ++ .entered depth :: body ++ [.exited depth]) = depthAfter front ∧
        ∀ inner, inner <+: body → ∃ middle,
          depthAfter (front ++ .entered depth :: inner) = some middle ∧ depth ≤ middle) ∧
    ∀ levels threshold left stream more,
      extend registry (expression registry limit.toNat levels) threshold (stream.room + more)
          left stream =
        extend registry (expression registry limit.toNat levels) threshold stream.room
          left stream := by
  have hlimit : limit.toNat < UInt64.size := limit.toNat_lt_size
  have hran := Machine.ran_run registry limit.toNat input
  refine ⟨hran.turns_le, ?_, fun _ _ _ => hran.exists_exited hlimit, ?_⟩
  · intro front hfront
    obtain ⟨depth, hdepth, hle⟩ := hran.depth_of_prefix hlimit hfront
    have hturns := depth_le_turns hdepth
    have hfewer : turns front ≤ turns _ := hfront.sublist.countP_le
    have hall := hran.turns_le
    exact ⟨depth, hdepth, by omega⟩
  · intro levels threshold left stream more
    have hleft := stream.left_le_room
    have hmore : stream.left ≤ stream.room + more := Nat.le_add_right_of_le hleft
    exact extend_congr registry (consumes_expression registry _ levels) threshold left hmore hleft

end Formula
