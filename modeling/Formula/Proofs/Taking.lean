import Formula.Proofs.Places
import Formula.TokenStream

/-!
# Taking tokens from a stream

Between two states of a stream lie the tokens that are taken.  No token is taken
twice, and the end of a text is none of them: taking it leads nowhere.

What a lexer has not read yet is a scan.  It is a view of the lexer: the lexer
reads one token of it, and the stream stands behind that token.
-/

namespace Formula

/-- The error at which reading ends, if it does not end with the text. -/
def Ending.error? : Ending → Option Error
  | .clean _ => none
  | .stray _ character position => some (.strayCharacter character.toString position)

theorem Scan.toExcept_eq_error_iff {scan : Scan} {error : Error} :
    scan.toExcept = .error error ↔ scan.ending.error? = some error := by
  unfold toExcept Ending.error?
  cases scan.ending <;> simp

theorem Scan.ofPlace_end (cursor : Nat) : ofPlace ⟨cursor, []⟩ = ⟨[], .clean cursor⟩ := by
  have hfind : Place.find ⟨cursor, []⟩ = .ended ⟨cursor, []⟩ := Place.find_of_blank (by simp)
  exact ofPlace_of_ended hfind

/-! ## What a lexer has not read -/

namespace Lexer

def remainder (lexer : Lexer) : Scan :=
  .ofPlace lexer.place

@[simp] theorem remainder_ofText (text : String) : (ofText text).remainder = .ofText text :=
  rfl

theorem kind_ne_endOfInput (lexer : Lexer) :
    ∀ token ∈ lexer.remainder.tokens, token.kind ≠ .endOfInput := by
  obtain ⟨_, _, _, hlaid, _⟩ := Scan.laid_ofPlace lexer.place none (by simp)
  exact hlaid.kind_ne_endOfInput

/-- Each token takes a character. -/
theorem length_remainder_le (lexer : Lexer) :
    lexer.remainder.tokens.length ≤ lexer.place.rest.length := by
  unfold remainder
  induction lexer.place using Scan.ofPlace.induct with
  | case1 place token after hfind _ ih =>
      have hlt := Place.length_lt_of_find_token hfind
      rw [Scan.ofPlace_of_token hfind, List.length_cons]
      omega
  | case2 place after hfind => simp [Scan.ofPlace_of_ended hfind]
  | case3 place character position hfind => simp [Scan.ofPlace_of_stray hfind]

end Lexer

namespace TokenStream

/-- What reading a token can come to.  A lexer that fails stays where it is. -/
inductive Scans (lexer : Lexer) : Run Token × Lexer → Prop
  | token {token : Token} {after : Lexer}
      (hremainder : lexer.remainder = ⟨token :: after.remainder.tokens, after.remainder.ending⟩) :
      Scans lexer (.after (.scanned token) (.ok token), after)
  | ended {after : Lexer} (hremainder : lexer.remainder = ⟨[], .clean after.cursor⟩)
      (hafter : after.remainder = ⟨[], .clean after.cursor⟩) :
      Scans lexer (.after (.ended after.cursor) (.ok (.endOfInput after.cursor)), after)
  | stray {character : Char} {position : Nat}
      (hremainder : lexer.remainder = ⟨[], .stray lexer.cursor character position⟩) :
      Scans lexer
        (.after (.strayed lexer.cursor) (.error (.strayCharacter character.toString position)),
          lexer)

theorem scans (lexer : Lexer) : Scans lexer (scan lexer) := by
  have hfinds := lexer.place.finds
  unfold scan Lexer.nextToken
  cases hfind : lexer.place.find with
  | token token place => exact .token (Scan.ofPlace_of_token hfind)
  | ended place =>
      rw [hfind] at hfinds
      cases hfinds with
      | ended => exact .ended (Scan.ofPlace_of_ended hfind) (Scan.ofPlace_end _)
  | stray character position => exact .stray (Scan.ofPlace_of_stray hfind)

/-- To take the token in sight is to read the one behind it.  Where that fails, the stream is
left as it was. -/
theorem advance_eq {stream : TokenStream} (hkind : stream.lookahead.kind ≠ .endOfInput) :
    stream.advance =
      (ofLexer stream.lexer >>= fun _ => pure stream.lookahead,
        match (ofLexer stream.lexer).outcome with
        | .ok after => after
        | .error _ => stream) := by
  have hscans := scans stream.lexer
  unfold advance ofLexer
  rw [if_neg hkind]
  generalize scan stream.lexer = scanned at hscans
  cases hscans <;> rfl

/-- What comes behind the token in sight. -/
def beyond (stream : TokenStream) : Scan :=
  stream.lexer.remainder

/-- One state of a stream leads to another one by the tokens that are taken. -/
inductive Takes : TokenStream → List Token → TokenStream → Prop
  | nothing (stream : TokenStream) : Takes stream [] stream
  | token {stream middle last : TokenStream} {tokens : List Token}
      (hkind : stream.lookahead.kind ≠ .endOfInput)
      (hread : (ofLexer stream.lexer).outcome = .ok middle) (hrest : Takes middle tokens last) :
      Takes stream (stream.lookahead :: tokens) last

/-- How many tokens are left before the end of a text. -/
def left (stream : TokenStream) : Nat :=
  if stream.lookahead.kind = .endOfInput then 0 else stream.beyond.tokens.length + 1

theorem left_le_room (stream : TokenStream) : stream.left ≤ stream.room := by
  have hle := stream.lexer.length_remainder_le
  unfold left room beyond
  split <;> omega

/-! ## Reading ahead -/

theorem outcome_ofLexer_eq_ok {lexer : Lexer} {stream : TokenStream}
    (h : (ofLexer lexer).outcome = .ok stream) :
    lexer.remainder = ⟨stream.lookahead :: stream.beyond.tokens, stream.beyond.ending⟩ ∨
    (∃ length, lexer.remainder = ⟨[], .clean length⟩ ∧
      stream.lookahead = .endOfInput length ∧ stream.beyond = ⟨[], .clean length⟩) := by
  have hscans := scans lexer
  unfold ofLexer at h
  generalize scan lexer = scanned at h hscans
  cases hscans with
  | token hremainder =>
      cases h
      exact .inl hremainder
  | ended hremainder hafter =>
      cases h
      exact .inr ⟨_, hremainder, rfl, hafter⟩
  | stray => cases h

/-- Reading fails only where the tokens end, at the character behind them. -/
theorem outcome_ofLexer_eq_error {lexer : Lexer} {error : Error}
    (h : (ofLexer lexer).outcome = .error error) :
    ∃ character position, lexer.remainder = ⟨[], .stray lexer.cursor character position⟩ ∧
      error = .strayCharacter character.toString position := by
  have hscans := scans lexer
  unfold ofLexer at h
  generalize scan lexer = scanned at h hscans
  cases hscans with
  | token | ended => cases h
  | stray hremainder =>
      cases h
      exact ⟨_, _, hremainder, rfl⟩

theorem error?_of_outcome_ofLexer {lexer : Lexer} {error : Error}
    (h : (ofLexer lexer).outcome = .error error) : lexer.remainder.ending.error? = some error := by
  obtain ⟨character, position, hremainder, rfl⟩ := outcome_ofLexer_eq_error h
  rw [hremainder]
  rfl

theorem exists_ok_of_clean {lexer : Lexer} {length : Nat}
    (h : lexer.remainder.ending = .clean length) :
    ∃ stream, (ofLexer lexer).outcome = .ok stream := by
  cases hread : (ofLexer lexer).outcome with
  | ok stream => exact ⟨stream, rfl⟩
  | error error =>
      obtain ⟨_, _, hremainder, _⟩ := outcome_ofLexer_eq_error hread
      rw [hremainder] at h
      cases h

theorem left_le_of_ofLexer {lexer : Lexer} {stream : TokenStream}
    (h : (ofLexer lexer).outcome = .ok stream) : stream.left ≤ lexer.remainder.tokens.length := by
  rcases outcome_ofLexer_eq_ok h with hremainder | ⟨length, _, hlookahead, _⟩
  · rw [hremainder, List.length_cons]
    unfold left
    split <;> omega
  · simp [left, hlookahead, Token.endOfInput]

/-! ## What is left of a scan -/

section Leaves

variable {scan : Scan} {taken : List Token} {stream : TokenStream}

/-- The stream is what some tokens leave of a scan. -/
def Leaves (scan : Scan) (taken : List Token) (stream : TokenStream) : Prop :=
  ∃ left lexer, scan.tokens = taken ++ left ∧ lexer.remainder = ⟨left, scan.ending⟩ ∧
    (ofLexer lexer).outcome = .ok stream

theorem leaves_of_ofLexer {lexer : Lexer} (h : (ofLexer lexer).outcome = .ok stream) :
    Leaves lexer.remainder [] stream :=
  ⟨lexer.remainder.tokens, lexer, rfl, rfl, h⟩

theorem Leaves.mem (h : Leaves scan taken stream) {token : Token} (hmem : token ∈ taken) :
    token ∈ scan.tokens := by
  obtain ⟨left, _, htokens, _⟩ := h
  rw [htokens]
  exact List.mem_append_left left hmem

/-- Reading on leaves one token less, or ends where the scan does. -/
theorem Leaves.beyond (h : Leaves scan taken stream)
    (hkind : stream.lookahead.kind ≠ .endOfInput) :
    match (ofLexer stream.lexer).outcome with
    | .ok after => Leaves scan (taken ++ [stream.lookahead]) after
    | .error error => scan.ending.error? = some error := by
  obtain ⟨left, lexer, htokens, hremainder, hread⟩ := h
  rcases outcome_ofLexer_eq_ok hread with hfirst | ⟨length, _, hlookahead, _⟩
  · rw [hremainder] at hfirst
    obtain ⟨rfl, hending⟩ := Scan.mk.inj hfirst
    cases hnext : (ofLexer stream.lexer).outcome with
    | ok after =>
        refine ⟨stream.beyond.tokens, stream.lexer, ?_, ?_, hnext⟩
        · rw [htokens, List.append_assoc, List.singleton_append]
        · rw [hending]
          rfl
    | error error =>
        show scan.ending.error? = some error
        rw [hending]
        exact error?_of_outcome_ofLexer hnext
  · rw [hlookahead] at hkind
    exact (hkind rfl).elim

end Leaves

/-! ## Taking several tokens -/

namespace Takes

theorem trans {first second third : TokenStream} {front back : List Token}
    (hfirst : Takes first front second) (hsecond : Takes second back third) :
    Takes first (front ++ back) third := by
  induction hfirst with
  | nothing => exact hsecond
  | token hkind hread _ ih => exact .token hkind hread (ih hsecond)

/-- What is taken in one go may be taken in two. -/
theorem split {first third : TokenStream} {front back : List Token}
    (h : Takes first (front ++ back) third) :
    ∃ second, Takes first front second ∧ Takes second back third := by
  induction front generalizing first with
  | nil => exact ⟨first, .nothing first, h⟩
  | cons token front ih =>
      cases h with
      | token hkind hread hrest =>
          obtain ⟨second, hfront, hback⟩ := ih hrest
          exact ⟨second, .token hkind hread hfront, hback⟩

theorem uncons {first third : TokenStream} {token : Token} {tokens : List Token}
    (h : Takes first (token :: tokens) third) :
    ∃ second, Takes first [token] second ∧ Takes second tokens third :=
  @split first third [token] tokens h

theorem head {first second : TokenStream} {token : Token} {tokens : List Token}
    (h : Takes first (token :: tokens) second) : first.lookahead = token := by
  cases h
  rfl

theorem left_add_length_le {stream after : TokenStream} {tokens : List Token}
    (h : Takes stream tokens after) : after.left + tokens.length ≤ stream.left := by
  induction h with
  | nothing => simp
  | @token stream middle last tokens hkind hread _ ih =>
      have hmiddle := left_le_of_ofLexer hread
      have hstream : stream.left = stream.beyond.tokens.length + 1 := if_neg hkind
      rw [List.length_cons]
      unfold beyond at hstream
      omega

/-- Whoever takes all tokens of a stream has taken all tokens of the text. -/
theorem remainder_eq {lexer : Lexer} {stream last : TokenStream} {tokens : List Token}
    (h : Takes stream tokens last) (hread : (ofLexer lexer).outcome = .ok stream)
    (hend : last.lookahead.kind = .endOfInput) :
    ∃ length, lexer.remainder = ⟨tokens, .clean length⟩ := by
  have hkinds := lexer.kind_ne_endOfInput
  induction h generalizing lexer with
  | nothing stream =>
      rcases outcome_ofLexer_eq_ok hread with hremainder | ⟨length, hremainder, _⟩
      · rw [hremainder] at hkinds
        exact (hkinds _ List.mem_cons_self hend).elim
      · exact ⟨length, hremainder⟩
  | @token stream middle last tokens hkind hmiddle _ ih =>
      rcases outcome_ofLexer_eq_ok hread with hremainder | ⟨length, _, hlookahead, _⟩
      · obtain ⟨length, hbeyond⟩ := ih hmiddle hend stream.lexer.kind_ne_endOfInput
        unfold beyond at hremainder
        rw [hbeyond] at hremainder
        exact ⟨length, hremainder⟩
      · rw [hlookahead] at hkind
        exact (hkind rfl).elim

/-- The tokens of a text can be taken up to its end. -/
theorem exists_of_remainder {lexer : Lexer} {tokens : List Token} {length : Nat}
    (h : lexer.remainder = ⟨tokens, .clean length⟩) :
    ∃ stream last, (ofLexer lexer).outcome = .ok stream ∧ Takes stream tokens last ∧
      last.lookahead = .endOfInput length := by
  induction tokens generalizing lexer with
  | nil =>
      obtain ⟨stream, hread⟩ := exists_ok_of_clean (congrArg Scan.ending h)
      rcases outcome_ofLexer_eq_ok hread with hremainder | ⟨_, hremainder, hlookahead, _⟩
      · rw [h] at hremainder
        cases hremainder
      · rw [h] at hremainder
        cases hremainder
        exact ⟨stream, stream, hread, .nothing stream, hlookahead⟩
  | cons token tokens ih =>
      obtain ⟨stream, hread⟩ := exists_ok_of_clean (congrArg Scan.ending h)
      have hkind := lexer.kind_ne_endOfInput token (by simp [h])
      rcases outcome_ofLexer_eq_ok hread with hremainder | ⟨_, hremainder, _⟩
      · obtain ⟨htokens, hending⟩ := Scan.mk.inj (h.symm.trans hremainder)
        obtain ⟨rfl, rfl⟩ := List.cons.inj htokens
        have hbeyond : stream.lexer.remainder = ⟨stream.beyond.tokens, .clean length⟩ := by
          rw [hending]
          rfl
        obtain ⟨middle, last, hmiddle, htakes, hlast⟩ := ih hbeyond
        exact ⟨stream, last, hread, .token hkind hmiddle htakes, hlast⟩
      · rw [h] at hremainder
        cases hremainder

end Takes

theorem takes_of_tokenize {text : String} {tokens : List Token} (h : tokenize text = .ok tokens) :
    ∃ stream last, (ofText text).outcome = .ok stream ∧ Takes stream tokens last ∧
      last.lookahead.kind = .endOfInput := by
  obtain ⟨stream, last, hread, htakes, hlast⟩ :=
    @Takes.exists_of_remainder (.ofText text) tokens _ (Scan.eq_of_tokenize h)
  exact ⟨stream, last, hread, htakes, by rw [hlast]; rfl⟩

end TokenStream

end Formula
