import Formula.Lexer
import Formula.Proofs.Places
import Formula.Proofs.Taking

/-!
# Streams deliver what lexers yield

A stream may be asked in any order to take its next token, or to take it if it is
of some kind.  Whatever the order, the tokens that are taken are those that the
lexer of the text yields.  Behind the last of them stands the end of the text, or
an error that is repeated as long as the stream is asked for more.
-/

namespace Formula

namespace Lexer

theorem next?_of_not_failed {lexer : Lexer} (h : lexer.failed = false) :
    lexer.next? =
      match lexer.place.find with
      | .token token after => (some (.ok token), { lexer with place := after })
      | .ended after => (none, { lexer with place := after })
      | .stray character position =>
          (some (.error (.strayCharacter character.toString position)),
            { lexer with failed := true }) := by
  simp only [next?, nextToken, h]
  cases lexer.place.find <;> rfl

theorem length_lt_of_next? {lexer after : Lexer} {token : Token}
    (h : lexer.next? = (some (.ok token), after)) :
    after.place.rest.length < lexer.place.rest.length := by
  cases hfailed : lexer.failed with
  | true =>
      rw [next?, if_pos hfailed] at h
      cases h
  | false =>
      rw [next?_of_not_failed hfailed] at h
      cases hfind : lexer.place.find with
      | token found place =>
          rw [hfind] at h
          cases h
          exact Place.length_lt_of_find_token hfind
      | ended place => simp [hfind] at h
      | stray character position => simp [hfind] at h

/-- What `next?` yields until it yields nothing: tokens, and an error behind them
if there is one. -/
def drain (lexer : Lexer) : List Token × Option Error :=
  match h : lexer.next? with
  | (none, _) => ([], none)
  | (some (.error error), _) => ([], some error)
  | (some (.ok token), after) =>
      have := length_lt_of_next? h
      let later := drain after
      (token :: later.1, later.2)
termination_by lexer.place.rest.length

theorem drain_of_token {lexer after : Lexer} {token : Token}
    (h : lexer.next? = (some (.ok token), after)) :
    lexer.drain = (token :: after.drain.1, after.drain.2) := by
  rw [drain]
  split <;> rename_i hnext <;> rw [h] at hnext <;> cases hnext
  rfl

theorem drain_of_none {lexer after : Lexer} (h : lexer.next? = (none, after)) :
    lexer.drain = ([], none) := by
  rw [drain]
  split <;> rename_i hnext <;> rw [h] at hnext <;> cases hnext

theorem drain_of_error {lexer after : Lexer} {error : Error}
    (h : lexer.next? = (some (.error error), after)) : lexer.drain = ([], some error) := by
  rw [drain]
  split <;> rename_i hnext <;> rw [h] at hnext <;> cases hnext
  rfl

/-- What a lexer yields is what is found in the rest of its text. -/
theorem drain_eq (input : String) (place : Place) :
    (Lexer.mk input place false).drain =
      ((Scan.ofPlace place).tokens, (Scan.ofPlace place).ending.error?) := by
  have hnext := @next?_of_not_failed ⟨input, place, false⟩ rfl
  induction place using Scan.ofPlace.induct with
  | case1 place token after hfind _ ih =>
      rw [hfind] at hnext
      rw [drain_of_token hnext, Scan.ofPlace_of_token hfind, ih (next?_of_not_failed rfl)]
  | case2 place after hfind =>
      rw [hfind] at hnext
      rw [drain_of_none hnext, Scan.ofPlace_of_ended hfind]
      rfl
  | case3 place character position hfind =>
      rw [hfind] at hnext
      rw [drain_of_error hnext, Scan.ofPlace_of_stray hfind]
      rfl

end Lexer

namespace TokenStream

/-! ## Calls -/

inductive Call where
  | advance
  | advanceIf (kind : Kind)
  deriving DecidableEq, Repr

inductive Reply where
  | token (token : Token)
  /-- Is it of the kind that was asked for? -/
  | verdict (same : Bool)
  deriving DecidableEq, Repr

/-- The answer to a call and the stream that it leaves, whether it fails or not. -/
def reply (stream : TokenStream) : Call → Except Error Reply × TokenStream
  | .advance =>
      let (answer, after) := stream.advance
      (answer.outcome.map .token, after)
  | .advanceIf kind =>
      let (answer, after) := stream.advanceIf kind
      (answer.outcome.map .verdict, after)

/-- The token that a call takes, by its answer.  The end of the text is not taken. -/
def taken (stream : TokenStream) (answer : Except Error Reply) : List Token :=
  if stream.lookahead.kind = .endOfInput then []
  else
    match answer with
    | .ok (.token token) => [token]
    | .ok (.verdict true) => [stream.lookahead]
    | _ => []

/-- The tokens that calls take one after the other, and the stream after them. -/
def use (stream : TokenStream) : List Call → List Token × TokenStream
  | [] => ([], stream)
  | call :: calls =>
      let (answer, after) := stream.reply call
      let (tokens, last) := after.use calls
      (stream.taken answer ++ tokens, last)

/-- What taking the first of the tokens that are left answers.  Behind the last of
them the end of the text is read, or the error. -/
def expected (length : Nat) (failure : Option Error) : List Token → Except Error Reply
  | [] => .ok (.token (.endOfInput length))
  | [last] => (failure.map Except.error).getD (.ok (.token last))
  | token :: _ :: _ => .ok (.token token)

/-- The stream shows the first of the tokens that are left and answers all calls
as they demand. -/
structure Faces (length : Nat) (failure : Option Error) (left : List Token)
    (stream : TokenStream) : Prop where
  shows : stream.lookahead = left.head?.getD (.endOfInput length)
  advance : (stream.reply .advance).1 = expected length failure left
  advanceIf : ∀ kind, stream.reply (.advanceIf kind) =
    if stream.lookahead.kind = kind then
      ((stream.reply .advance).1.map fun _ => .verdict true, (stream.reply .advance).2)
    else (.ok (.verdict false), stream)
  /-- Where nothing can be taken, the stream stays as it is. -/
  stays : stream.taken (stream.reply .advance).1 = [] → (stream.reply .advance).2 = stream

theorem reply_advanceIf (stream : TokenStream) (kind : Kind) :
    stream.reply (.advanceIf kind) =
      if stream.lookahead.kind = kind then
        ((stream.reply .advance).1.map fun _ => .verdict true, (stream.reply .advance).2)
      else (.ok (.verdict false), stream) := by
  unfold reply advanceIf
  by_cases hkind : stream.lookahead.kind = kind
  · simp only [if_pos hkind, Run.outcome_bind]
    cases stream.advance.1.outcome <;> rfl
  · simp only [if_neg hkind]
    rfl

theorem reply_advance_of_end {stream : TokenStream}
    (hkind : stream.lookahead.kind = .endOfInput) :
    stream.reply .advance = (.ok (.token stream.lookahead), stream) := by
  simp only [reply, advance, if_pos hkind]
  rfl

theorem reply_advance_of_ok {stream after : TokenStream}
    (hkind : stream.lookahead.kind ≠ .endOfInput)
    (hnext : (ofLexer stream.lexer).outcome = .ok after) :
    stream.reply .advance = (.ok (.token stream.lookahead), after) := by
  simp only [reply, advance_eq hkind, Run.outcome_bind, hnext]
  rfl

theorem reply_advance_of_error {stream : TokenStream} {error : Error}
    (hkind : stream.lookahead.kind ≠ .endOfInput)
    (hnext : (ofLexer stream.lexer).outcome = .error error) :
    stream.reply .advance = (.error error, stream) := by
  simp only [reply, advance_eq hkind, Run.outcome_bind, hnext]
  rfl

theorem taken_token {stream : TokenStream} (hkind : stream.lookahead.kind ≠ .endOfInput)
    (token : Token) : stream.taken (.ok (.token token)) = [token] := by
  rw [taken, if_neg hkind]

theorem taken_error (stream : TokenStream) (error : Error) : stream.taken (.error error) = [] := by
  simp [taken]

/-! ## What one call does -/

section Reading

variable {scan : Scan} {front : List Token} {lexer : Lexer} {stream : TokenStream}

theorem ne_nil_of_ofLexer (hread : (ofLexer lexer).outcome = .ok stream)
    (hfails : lexer.remainder.ending.error?.isSome = true) : lexer.remainder.tokens ≠ [] := by
  rcases outcome_ofLexer_eq_ok hread with hremainder | ⟨length, hremainder, _⟩
  · rw [hremainder]
    exact List.cons_ne_nil _ _
  · rw [hremainder] at hfails
    cases hfails

/-- The stream that is read from a lexer faces what the lexer has not read. -/
theorem faces_of_ofLexer {length : Nat}
    (hlength : ∀ position, lexer.remainder.ending = .clean position → position = length)
    (hread : (ofLexer lexer).outcome = .ok stream) :
    Faces length lexer.remainder.ending.error? lexer.remainder.tokens stream := by
  rcases outcome_ofLexer_eq_ok hread with hremainder | ⟨position, hremainder, hlookahead, _⟩
  · have hkind := lexer.kind_ne_endOfInput stream.lookahead (by simp [hremainder])
    rw [hremainder]
    cases hnext : (ofLexer stream.lexer).outcome with
    | ok after =>
        have hreply := reply_advance_of_ok hkind hnext
        refine ⟨rfl, (congrArg Prod.fst hreply).trans ?_, reply_advanceIf stream, fun hnone => ?_⟩
        · unfold beyond
          rcases outcome_ofLexer_eq_ok hnext with hbeyond | ⟨_, hbeyond, _⟩ <;> rw [hbeyond] <;> rfl
        · rw [hreply, taken_token hkind] at hnone
          cases hnone
    | error error =>
        have hreply := reply_advance_of_error hkind hnext
        refine ⟨rfl, (congrArg Prod.fst hreply).trans ?_, reply_advanceIf stream,
          fun _ => congrArg Prod.snd hreply⟩
        obtain ⟨character, position, hbeyond, rfl⟩ := outcome_ofLexer_eq_error hnext
        unfold beyond
        rw [hbeyond]
        rfl
  · have hend : stream.lookahead.kind = .endOfInput := by rw [hlookahead]; rfl
    have hreply := reply_advance_of_end hend
    obtain rfl := hlength position (by rw [hremainder])
    rw [hremainder]
    exact ⟨hlookahead, (congrArg Prod.fst hreply).trans (by rw [hlookahead]; rfl),
      reply_advanceIf stream, fun _ => congrArg Prod.snd hreply⟩

/-- To take the next token is to leave one token less, unless the end is reached. -/
theorem leaves_advance (hleaves : Leaves scan front stream) :
    Leaves scan (front ++ stream.taken (stream.reply .advance).1) (stream.reply .advance).2 := by
  by_cases hkind : stream.lookahead.kind = .endOfInput
  · rw [reply_advance_of_end hkind, taken, if_pos hkind, List.append_nil]
    exact hleaves
  · have hbeyond := hleaves.beyond hkind
    cases hnext : (ofLexer stream.lexer).outcome with
    | ok after =>
        rw [hnext] at hbeyond
        rw [reply_advance_of_ok hkind hnext, taken_token hkind]
        exact hbeyond
    | error error =>
        rw [reply_advance_of_error hkind hnext, taken_error, List.append_nil]
        exact hleaves

/-- To take the next token if it is of its own kind is to take it. -/
theorem taken_map_verdict (stream : TokenStream) :
    stream.taken ((stream.reply .advance).1.map fun _ => .verdict true) =
      stream.taken (stream.reply .advance).1 := by
  by_cases hkind : stream.lookahead.kind = .endOfInput
  · simp only [taken, if_pos hkind]
  · cases hnext : (ofLexer stream.lexer).outcome with
    | error error =>
        rw [reply_advance_of_error hkind hnext]
        rfl
    | ok after =>
        rw [reply_advance_of_ok hkind hnext, taken_token hkind]
        show stream.taken (.ok (.verdict true)) = _
        rw [taken, if_neg hkind]

/-- A call takes the first of the tokens that are left, or none. -/
theorem leaves_reply (call : Call) (hleaves : Leaves scan front stream) :
    Leaves scan (front ++ stream.taken (stream.reply call).1) (stream.reply call).2 := by
  cases call with
  | advance => exact leaves_advance hleaves
  | advanceIf kind =>
      rw [reply_advanceIf]
      by_cases hkind : stream.lookahead.kind = kind
      · rw [if_pos hkind]
        simp only [taken_map_verdict]
        exact leaves_advance hleaves
      · rw [if_neg hkind]
        have hnone : stream.taken (.ok (.verdict false)) = [] := by
          simp [taken]
        rw [hnone, List.append_nil]
        exact hleaves

/-! ## What calls in a row do -/

/-- However a stream is used, the tokens that are taken and those that are left
are the tokens that there were. -/
theorem leaves_use (calls : List Call) (hleaves : Leaves scan front stream) :
    Leaves scan (front ++ (stream.use calls).1) (stream.use calls).2 := by
  induction calls generalizing front stream with
  | nil =>
      rw [use, List.append_nil]
      exact hleaves
  | cons call calls ih =>
      have hrest := ih (leaves_reply call hleaves)
      rw [List.append_assoc] at hrest
      exact hrest

/-- However a stream is used, it faces what is left of the tokens. -/
theorem faces_use {length : Nat} {first : TokenStream} (calls : List Call)
    (hlength : ∀ position, lexer.remainder.ending = .clean position → position = length)
    (hread : (ofLexer lexer).outcome = .ok first) :
    ∃ left, lexer.remainder.tokens = (first.use calls).1 ++ left ∧
      (lexer.remainder.ending.error?.isSome = true → left ≠ []) ∧
      Faces length lexer.remainder.ending.error? left (first.use calls).2 := by
  obtain ⟨left, last, htokens, hlast, hleft⟩ := leaves_use calls (leaves_of_ofLexer hread)
  have hnonempty := ne_nil_of_ofLexer hleft
  have hfaces := @faces_of_ofLexer last _ length (by rw [hlast]; exact hlength) hleft
  rw [hlast] at hnonempty hfaces
  exact ⟨left, htokens, hnonempty, hfaces⟩

end Reading

/-- A stream delivers what the lexer of its text yields, however it is used.

If the lexer yields an error and no token, there is no stream.  If there is one,
the calls take the tokens in order, and what is left of them is shown and
answered: at the last, the end of the text, again and again.  If the lexer yields
an error behind the last token, that token is shown but never taken, and the
error is the answer to whoever asks for it. -/
theorem delivers_drained (input : String) :
    match (Lexer.ofText input).drain with
    | ([], some error) => (ofText input).outcome = .error error
    | (tokens, failure) =>
        ∃ first, (ofText input).outcome = .ok first ∧
          ∀ calls, ∃ left, tokens = (first.use calls).1 ++ left ∧
            (failure.isSome = true → left ≠ []) ∧
            Faces input.utf8ByteSize failure left (first.use calls).2 := by
  have hdrain : (Lexer.ofText input).drain =
      ((Scan.ofText input).tokens, (Scan.ofText input).ending.error?) :=
    Lexer.drain_eq input (.start input)
  have hscan : (Lexer.ofText input).remainder = Scan.ofText input := rfl
  rw [hdrain, ← hscan]
  cases hread : (ofText input).outcome with
  | error error =>
      obtain ⟨character, position, hremainder, rfl⟩ := outcome_ofLexer_eq_error hread
      rw [hremainder]
      rfl
  | ok first =>
      have hfaces := fun calls => @faces_use (.ofText input) input.utf8ByteSize first calls
        (fun _ => Scan.position_of_clean) hread
      have hnonempty := ne_nil_of_ofLexer hread
      revert hfaces hnonempty
      generalize (Lexer.ofText input).remainder = scan
      intro hfaces hnonempty
      obtain ⟨tokens, ending⟩ := scan
      cases tokens with
      | nil =>
          cases hfailure : ending.error? with
          | none => rw [hfailure] at hfaces; exact ⟨first, rfl, hfaces⟩
          | some error => exact (hnonempty (by rw [hfailure]; rfl) rfl).elim
      | cons token tokens => exact ⟨first, rfl, hfaces⟩

end TokenStream

end Formula
