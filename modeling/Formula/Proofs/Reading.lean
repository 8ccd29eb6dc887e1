import Formula.Proofs.Climbing
import Formula.Proofs.Places

/-!
# What an evaluation reads

An evaluation reads the tokens of its text in their order, none of them twice,
and at last the end of the text.  Its events keep what it has read, whether it
comes to a value or not.
-/

namespace Formula

namespace Run

variable {α β : Type}

def reads (run : Run α) : List Token :=
  run.events.filterMap Event.read?

theorem reads_emit {event : Event} (h : event.read? = none) : (emit event).reads = [] := by
  simp [reads, emit, h]

theorem reads_bind_of_ok {run : Run α} {value : α} (h : run.outcome = .ok value)
    (next : α → Run β) : (run >>= next).reads = run.reads ++ (next value).reads := by
  rw [reads, events_bind_of_ok h, List.filterMap_append]
  rfl

theorem reads_bind_of_error {run : Run α} {error : Error} (h : run.outcome = .error error)
    (next : α → Run β) : (run >>= next).reads = run.reads := by
  rw [reads, events_bind_of_error h]
  rfl

theorem reads_between {first last : Event} (hfirst : first.read? = none)
    (hlast : last.read? = none) (run : Run α) : (run.between first last).reads = run.reads := by
  simp [reads, hfirst, hlast]

end Run

/-! ## What there is to read -/

namespace Token

/-- What a token is and what it reads, wherever it stands. -/
def content (token : Token) : Kind × String :=
  (token.kind, token.text)

variable {t u : Token}

theorem kind_eq_of_content (h : t.content = u.content) : t.kind = u.kind :=
  congrArg Prod.fst h

theorem text_eq_of_content (h : t.content = u.content) : t.text = u.text :=
  congrArg Prod.snd h

theorem value_eq_of_content (h : t.content = u.content) : t.value = u.value := by
  rw [value, value, text_eq_of_content h]

theorem display_eq_of_content (h : t.content = u.content) : t.display = u.display := by
  rw [display, display, kind_eq_of_content h, text_eq_of_content h]

end Token

namespace Scan

/-- What there is to read of tokens that are taken one after the other.  Behind the
end of a text nothing is read. -/
def sightsTo (ending : Ending) : List Token → List Token
  | [] =>
      match ending with
      | .clean position => [.endOfInput position]
      | .stray _ _ _ => []
  | token :: tokens =>
      token :: if token.kind = .endOfInput then [] else sightsTo ending tokens

def sights (scan : Scan) : List Token :=
  sightsTo scan.ending scan.tokens

theorem sights_of_kinds {scan : Scan} (h : ∀ token ∈ scan.tokens, token.kind ≠ .endOfInput) :
    scan.sights = scan.tokens ++ sightsTo scan.ending [] := by
  obtain ⟨tokens, ending⟩ := scan
  induction tokens with
  | nil => rfl
  | cons token tokens ih =>
      have hkind := h token List.mem_cons_self
      have hrest : sightsTo ending tokens = tokens ++ sightsTo ending [] :=
        ih fun other hmem => h other (List.mem_cons_of_mem token hmem)
      show sightsTo ending (token :: tokens) = _
      rw [sightsTo, if_neg hkind, hrest, List.cons_append]

theorem sights_of_tokenize {text : String} {tokens : List Token}
    (h : tokenize text = .ok tokens) :
    (ofText text).sights = tokens ++ [.endOfInput text.utf8ByteSize] := by
  have hsights := sights_of_kinds (kind_ne_endOfInput text)
  rw [eq_of_tokenize h] at hsights ⊢
  exact hsights

theorem tokens_prefix_sights (text : String) :
    (ofText text).tokens <+: (ofText text).sights := by
  rw [sights_of_kinds (kind_ne_endOfInput text)]
  exact List.prefix_append _ _

theorem mem_of_mem_sights {text : String} {token : Token} (h : token ∈ (ofText text).sights)
    (hkind : token.kind ≠ .endOfInput) : token ∈ (ofText text).tokens := by
  rw [sights_of_kinds (kind_ne_endOfInput text), List.mem_append] at h
  rcases h with hmem | hmem
  · exact hmem
  · cases hending : (ofText text).ending with
    | clean position =>
        rw [hending, sightsTo, List.mem_singleton] at hmem
        rw [hmem] at hkind
        exact absurd rfl hkind
    | stray =>
        rw [hending] at hmem
        cases hmem

end Scan

namespace TokenStream

/-- What there is to read behind the token in sight. -/
def unread (stream : TokenStream) : List Token :=
  if stream.lookahead.kind = .endOfInput then [] else stream.beyond.sights

/-- The token that is read first comes in sight, and the others are left. -/
theorem reads_ofLexer {lexer : Lexer} {stream : TokenStream}
    (h : (ofLexer lexer).outcome = .ok stream) :
    (ofLexer lexer).reads = [stream.lookahead] ∧
      lexer.remainder.sights = stream.lookahead :: stream.unread := by
  have hscans := scans lexer
  unfold ofLexer at h ⊢
  generalize scan lexer = scanned at h hscans
  cases hscans with
  | token hremainder =>
      cases h
      rw [hremainder]
      exact ⟨rfl, rfl⟩
  | ended hremainder =>
      cases h
      rw [hremainder]
      exact ⟨rfl, rfl⟩
  | stray => cases h

theorem reads_ofLexer_of_error {lexer : Lexer} {error : Error}
    (h : (ofLexer lexer).outcome = .error error) : (ofLexer lexer).reads = [] := by
  have hscans := scans lexer
  unfold ofLexer at h ⊢
  generalize scan lexer = scanned at h hscans
  cases hscans with
  | token | ended => cases h
  | stray => rfl

/-- Where there is something to read, it comes in sight. -/
theorem exists_ofLexer {lexer : Lexer} {token : Token} {rest : List Token}
    (h : lexer.remainder.sights = token :: rest) :
    ∃ stream, (ofLexer lexer).outcome = .ok stream ∧ stream.lookahead = token ∧
      stream.unread = rest := by
  cases houtcome : (ofLexer lexer).outcome with
  | ok stream =>
      rw [(reads_ofLexer houtcome).2] at h
      injection h with htoken hrest
      exact ⟨stream, rfl, htoken, hrest⟩
  | error error =>
      obtain ⟨character, position, hremainder, _⟩ := outcome_ofLexer_eq_error houtcome
      rw [hremainder] at h
      cases h

theorem unread_of_kind {stream : TokenStream} (h : stream.lookahead.kind ≠ .endOfInput) :
    stream.unread = stream.beyond.sights :=
  if_neg h

end TokenStream

/-! ## Reading in order -/

namespace Evaluation

variable {α β : Type}

theorem reads_bind_of_ok {first : Evaluation α} {stream after : TokenStream} {value : α}
    (h : (first stream).outcome = .ok (value, after)) (next : α → Evaluation β) :
    ((first >>= next) stream).reads = (first stream).reads ++ (next value after).reads :=
  Run.reads_bind_of_ok h _

theorem reads_bind_of_error {first : Evaluation α} {stream : TokenStream} {error : Error}
    (h : (first stream).outcome = .error error) (next : α → Evaluation β) :
    ((first >>= next) stream).reads = (first stream).reads :=
  Run.reads_bind_of_error h _

theorem reads_lift (outcome : Except Error α) (stream : TokenStream) :
    ((StateT.lift (Run.ofExcept outcome) : Evaluation α) stream).reads = [] := by
  cases outcome <;> rfl

theorem reads_emit {event : Event} (h : event.read? = none) (stream : TokenStream) :
    (emit event stream).reads = [] := by
  show (Run.emit event >>= fun value => pure (value, stream)).reads = []
  rw [Run.reads_bind_of_ok rfl, Run.reads_emit h]
  rfl

theorem reads_within (depth : Nat) (body : Evaluation α) (stream : TokenStream) :
    (within depth body stream).reads = (body stream).reads :=
  Run.reads_between rfl rfl (body stream)

theorem reads_ofLexer_bind_pure (lexer : Lexer) (value : α) :
    (TokenStream.ofLexer lexer >>= fun after => pure (value, after)).reads =
      (TokenStream.ofLexer lexer).reads := by
  cases houtcome : (TokenStream.ofLexer lexer).outcome with
  | error error => exact Run.reads_bind_of_error houtcome _
  | ok after =>
      rw [Run.reads_bind_of_ok houtcome]
      exact List.append_nil _

theorem reads_advance (stream : TokenStream) :
    (advance stream).reads =
      if stream.lookahead.kind = .endOfInput then []
      else (TokenStream.ofLexer stream.lexer).reads := by
  rw [advance_eq]
  split
  · rfl
  · exact reads_ofLexer_bind_pure _ _

theorem reads_closeParen (stream : TokenStream) :
    (closeParen stream).reads =
      if stream.lookahead.kind = .closeParen then (TokenStream.ofLexer stream.lexer).reads
      else [] := by
  rw [closeParen_eq]
  split
  · exact reads_ofLexer_bind_pure _ _
  · rfl

def leftover : Except Error (α × TokenStream) → List Token
  | .ok (_, after) => after.unread
  | .error _ => []

/-- A computation reads what there is to read, in order. -/
def Reads (body : Evaluation α) : Prop :=
  ∀ stream, (body stream).reads ++ leftover (body stream).outcome <+: stream.unread

theorem reads_of_unmoved {body : Evaluation α} (hreads : ∀ stream, (body stream).reads = [])
    (hstream : ∀ stream value after, (body stream).outcome = .ok (value, after) → after = stream) :
    Reads body := by
  intro stream
  rw [hreads stream, List.nil_append]
  cases houtcome : (body stream).outcome with
  | error error => exact List.nil_prefix
  | ok result =>
      obtain ⟨value, after⟩ := result
      obtain rfl := hstream stream value after houtcome
      exact List.prefix_rfl

theorem Reads.bind {first : Evaluation α} {next : α → Evaluation β} (hfirst : Reads first)
    (hnext : ∀ value, Reads (next value)) : Reads (first >>= next) := by
  intro stream
  have hprefix := hfirst stream
  cases houtcome : (first stream).outcome with
  | error error =>
      rw [reads_bind_of_error houtcome, outcome_bind, houtcome]
      rw [houtcome] at hprefix
      exact hprefix
  | ok result =>
      rw [reads_bind_of_ok houtcome, outcome_bind, houtcome, ok_bind, List.append_assoc]
      rw [houtcome] at hprefix
      exact (List.prefix_append_right_inj _).2 (hnext result.1 result.2) |>.trans hprefix

/-- To read on is to take the first token that is unread. -/
theorem reads_beyond {stream : TokenStream} (hkind : stream.lookahead.kind ≠ .endOfInput)
    (value : α) :
    (TokenStream.ofLexer stream.lexer).reads ++
        leftover ((TokenStream.ofLexer stream.lexer).outcome.map (value, ·)) <+: stream.unread := by
  cases houtcome : (TokenStream.ofLexer stream.lexer).outcome with
  | error error =>
      rw [TokenStream.reads_ofLexer_of_error houtcome]
      exact List.nil_prefix
  | ok after =>
      obtain ⟨hreads, hsights⟩ := TokenStream.reads_ofLexer houtcome
      have hunread : stream.unread = after.lookahead :: after.unread :=
        (TokenStream.unread_of_kind hkind).trans hsights
      rw [hreads, hunread]
      exact List.prefix_rfl

theorem readsOn_advance : Reads advance := by
  intro stream
  rw [reads_advance, outcome_advance]
  by_cases hkind : stream.lookahead.kind = .endOfInput
  · rw [if_pos hkind, if_pos hkind]
    exact List.prefix_rfl
  · rw [if_neg hkind, if_neg hkind]
    exact reads_beyond hkind stream.lookahead

theorem readsOn_closeParen : Reads closeParen := by
  intro stream
  rw [outcome_closeParen, reads_closeParen]
  by_cases hkind : stream.lookahead.kind = .closeParen
  · have hend : stream.lookahead.kind ≠ .endOfInput := by simp [hkind]
    rw [if_pos hkind, if_pos hkind]
    exact reads_beyond hend ()
  · rw [if_neg hkind, if_neg hkind]
    exact List.nil_prefix

theorem readsOn_pure (value : α) : Reads (pure value) := by
  refine reads_of_unmoved (fun _ => rfl) ?_
  intro stream value after houtcome
  rw [outcome_pure] at houtcome
  cases houtcome
  rfl

theorem readsOn_fail (error : Error) : Reads (fail error : Evaluation α) := by
  refine reads_of_unmoved (fun _ => rfl) ?_
  intro stream value after houtcome
  cases houtcome

theorem readsOn_emit {event : Event} (h : event.read? = none) : Reads (emit event) := by
  refine reads_of_unmoved (reads_emit h) ?_
  intro stream value after houtcome
  rw [outcome_emit] at houtcome
  cases houtcome
  rfl

theorem readsOn_lift (outcome : Except Error α) :
    Reads (StateT.lift (Run.ofExcept outcome)) := by
  refine reads_of_unmoved (reads_lift outcome) ?_
  intro stream value after houtcome
  rw [outcome_lift] at houtcome
  obtain ⟨_, _, heq⟩ := map_eq_ok.1 houtcome
  cases heq
  rfl

theorem readsOn_peek : Reads peek := by
  refine reads_of_unmoved (fun _ => rfl) ?_
  intro stream value after houtcome
  rw [outcome_peek] at houtcome
  cases houtcome
  rfl

theorem readsOn_room : Reads room := by
  refine reads_of_unmoved (fun _ => rfl) ?_
  intro stream value after houtcome
  cases houtcome
  rfl

theorem readsOn_within (depth : Nat) {body : Evaluation α} (h : Reads body) :
    Reads (within depth body) := by
  intro stream
  rw [reads_within]
  exact h stream

/-- Whatever is made up of steps reads in order. -/
theorem hereditary_reads : Hereditary fun _ body => Reads body where
  pure := readsOn_pure
  fail := readsOn_fail
  bind := Reads.bind
  emit := readsOn_emit
  lift := readsOn_lift
  peek := readsOn_peek
  room := readsOn_room
  advance := readsOn_advance
  closeParen := readsOn_closeParen
  within := readsOn_within

end Evaluation

/-! ## Whole formulas -/

theorem reads_run (registry : Registry) (limit : Nat) (input : String) :
    (run registry limit input).reads =
      (TokenStream.ofText input).reads ++
        match (TokenStream.ofText input).outcome with
        | .ok stream => (Evaluation.whole registry limit stream).reads
        | .error _ => [] := by
  have hstart : (Run.emit (.started input)).reads = [] := Run.reads_emit rfl
  unfold run
  rw [Run.reads_bind_of_ok rfl, hstart, List.nil_append]
  cases hread : (TokenStream.ofText input).outcome with
  | error error => rw [Run.reads_bind_of_error hread, List.append_nil]
  | ok stream =>
      rw [Run.reads_bind_of_ok hread]
      congr 1
      cases hwhole : (Evaluation.whole registry limit stream).outcome with
      | error error => exact Run.reads_bind_of_error hwhole _
      | ok result =>
          have hfinish : (Run.emit (.finished input result.1)).reads = [] := Run.reads_emit rfl
          rw [Run.reads_bind_of_ok hwhole, Run.reads_bind_of_ok rfl, hfinish]
          exact List.append_nil _

/-- What the evaluation of a formula reads stands in front of its text. -/
theorem reads_prefix_sights (registry : Registry) (limit : Nat) (input : String) :
    (run registry limit input).reads <+: (Scan.ofText input).sights := by
  rw [reads_run]
  cases hread : (TokenStream.ofText input).outcome with
  | error error =>
      have hnone : (TokenStream.ofText input).reads = [] :=
        TokenStream.reads_ofLexer_of_error hread
      rw [hnone]
      exact List.nil_prefix
  | ok stream =>
      obtain ⟨hfirst, hsights⟩ := TokenStream.reads_ofLexer hread
      have hall : (Scan.ofText input).sights = stream.lookahead :: stream.unread := hsights
      have hwhole := Evaluation.hereditary_reads.whole registry limit stream
      rw [TokenStream.ofText, hfirst, hall]
      exact List.prefix_cons_inj _ |>.2 (List.prefix_append _ _ |>.trans hwhole)

end Formula
