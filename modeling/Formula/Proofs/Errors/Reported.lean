import Formula.Proofs.Grammar.Sound
import Formula.Proofs.Literals

/-!
# What is behind an error

An evaluation fails for a reason that lies in the tokens of the formula: in the
one that comes next, or in those that have been taken.  Two facts are kept while
tokens are taken.  Where a parenthesis comes next behind a number, the last token
taken is a number, a constant or a closing parenthesis.  A name that waits for its
argument is one of the tokens taken.  These two account for every error there is.
-/

namespace Formula

open Evaluation
open TokenStream (Leaves outcome_ofLexer_eq_ok)

/-! ## What comes next -/

namespace Scan

/-- After some tokens the given one comes next, or the end of the text. -/
def Shows (scan : Scan) (taken : List Token) (token : Token) : Prop :=
  (∃ later, scan.tokens = taken ++ token :: later) ∨
    (scan.tokens = taken ∧ ∃ length, scan.ending = .clean length ∧ token = .endOfInput length)

theorem shows_of_leaves {scan : Scan} {taken : List Token} {stream : TokenStream}
    (h : Leaves scan taken stream) : scan.Shows taken stream.lookahead := by
  obtain ⟨left, lexer, htokens, hremainder, hread⟩ := h
  rcases outcome_ofLexer_eq_ok hread with hfirst | ⟨length, hfirst, hlookahead, _⟩
  · obtain ⟨rfl, _⟩ := Scan.mk.inj (hremainder.symm.trans hfirst)
    exact .inl ⟨stream.beyond.tokens, htokens⟩
  · obtain ⟨rfl, hending⟩ := Scan.mk.inj (hremainder.symm.trans hfirst)
    rw [List.append_nil] at htokens
    exact .inr ⟨htokens, length, hending, hlookahead⟩

end Scan

/-! ## Reasons -/

def Token.EndsNumber (registry : Registry) (token : Token) : Prop :=
  token.kind.IsNumber ∨ token.kind = .closeParen ∨
    (token.kind = .name ∧ (registry.constant? token.text).isSome = true)

/-- Is the token the given name, and the name no constant? -/
def Token.Waits (registry : Registry) (name : String) (token : Token) : Prop :=
  token.kind = .name ∧ token.text = name ∧ registry.constant? name = none

/-- The reasons there are for an error, by the tokens that are found in a formula. -/
inductive Reported (registry : Registry) (limit : Nat) (scan : Scan) : Error → Prop
  | strayCharacter {text : String} {position : Nat}
      (hending : scan.ending.error? = some (.strayCharacter text position)) :
      Reported registry limit scan (.strayCharacter text position)
  | unexpectedToken {taken : List Token} {token : Token} (hshows : scan.Shows taken token)
      (hminus : token.kind ≠ .minus) (hopening : token.kind ≠ .openParen) :
      Reported registry limit scan (.unexpectedToken token.display token.position)
  | unclosedParenthesis {taken : List Token} {opening token : Token} (hmem : opening ∈ taken)
      (hopening : opening.kind = .openParen) (hshows : scan.Shows taken token)
      (hkind : token.kind ≠ .closeParen) :
      Reported registry limit scan (.unclosedParenthesis token.position)
  | unknownFunction {token : Token} {name : String} (hmem : token ∈ scan.tokens)
      (hwaits : token.Waits registry name) (hfunction : registry.function? name = none) :
      Reported registry limit scan (.unknownFunction name)
  | notAFunction {front back : List Token} {before opening : Token} (found : String)
      (htokens : scan.tokens = front ++ before :: opening :: back)
      (hends : before.EndsNumber registry) (hopening : opening.kind = .openParen) :
      Reported registry limit scan (.notAFunction found opening.position)
  | unresolvedName {token : Token} {name : String} (hmem : token ∈ scan.tokens)
      (hwaits : token.Waits registry name) :
      Reported registry limit scan (.unresolvedName name)
  | nestedTooDeeply : Reported registry limit scan (.nestedTooDeeply limit)

/-- The tokens that have been taken account for a value.  If a parenthesis comes
next, a number ends with the last of them; a name that waits is one of them. -/
def Backed (registry : Registry) (taken : List Token) (stream : TokenStream) : Value → Prop
  | .number _ => stream.lookahead.kind = .openParen →
      ∃ front last, taken = front ++ [last] ∧ last.EndsNumber registry
  | .pending name => ∃ token ∈ taken, token.Waits registry name

/-- An evaluation that starts behind some tokens takes more of them for its value. -/
def Reaches (registry : Registry) (scan : Scan) (start : List Token)
    (result : Value × TokenStream) : Prop :=
  ∃ taken, start <+: taken ∧ Leaves scan taken result.2 ∧ Backed registry taken result.2 result.1

def Accounts (registry : Registry) (limit : Nat) (scan : Scan)
    (operand : Threshold → Evaluation Value) : Prop :=
  ∀ threshold taken stream, Leaves scan taken stream →
    Meets (fun result => Reaches registry scan taken result ∧ threshold.Stops result.2)
      (Reported registry limit scan) (operand threshold stream).outcome

/-- No parenthesis follows where a call would be joined. -/
theorem backed_of_stops {registry : Registry} {taken : List Token} {stream : TokenStream}
    {threshold : Threshold} (hfifty : threshold.admits 50 = true) (h : threshold.Stops stream)
    (x : Float) : Backed registry taken stream (.number x) := by
  intro hopening
  have hstops : threshold.admits stream.lookahead.kind.role.power = false :=
    h .call (by rw [hopening]; rfl)
  rw [hopening] at hstops
  exact absurd hfifty (Bool.eq_false_iff.1 hstops)

theorem backed_of_last {registry : Registry} (front : List Token) {last : Token}
    (hends : last.EndsNumber registry) (stream : TokenStream) (x : Float) :
    Backed registry (front ++ [last]) stream (.number x) :=
  fun _ => ⟨front, last, rfl, hends⟩

/-- What has been taken for a value accounts for it behind a closing parenthesis too. -/
theorem Backed.closed {registry : Registry} {taken : List Token} {stream : TokenStream}
    {value : Value} (h : Backed registry taken stream value) {closing : Token}
    (hclosing : closing.kind = .closeParen) (after : TokenStream) :
    Backed registry (taken ++ [closing]) after value := by
  cases value with
  | number x => exact backed_of_last taken (.inr (.inl hclosing)) after x
  | pending name =>
      obtain ⟨token, hmem, hwaits⟩ := h
      exact ⟨token, List.mem_append_left _ hmem, hwaits⟩

/-! ## Steps -/

section Step

variable {registry : Registry} {limit : Nat} {scan : Scan} {taken : List Token}
  {stream : TokenStream}

theorem reported_of_error? {error : Error} (h : scan.ending.error? = some error) :
    Reported registry limit scan error := by
  cases hending : scan.ending with
  | clean length =>
      rw [hending] at h
      cases h
  | stray cursor character position =>
      rw [hending] at h
      cases h
      exact .strayCharacter (by rw [hending]; rfl)

theorem meets_beyond (hleaves : Leaves scan taken stream)
    (hkind : stream.lookahead.kind ≠ .endOfInput) :
    Meets (Leaves scan (taken ++ [stream.lookahead])) (Reported registry limit scan)
      (TokenStream.ofLexer stream.lexer).outcome := by
  have hbeyond := hleaves.beyond hkind
  cases hread : (TokenStream.ofLexer stream.lexer).outcome with
  | ok after =>
      rw [hread] at hbeyond
      exact hbeyond
  | error error =>
      rw [hread] at hbeyond
      exact reported_of_error? hbeyond

theorem meets_advance (hleaves : Leaves scan taken stream) :
    Meets (fun result => result.1 = stream.lookahead ∧
        (stream.lookahead.kind ≠ .endOfInput → Leaves scan (taken ++ [stream.lookahead]) result.2))
      (Reported registry limit scan) (advance stream).outcome := by
  rw [outcome_advance]
  by_cases hkind : stream.lookahead.kind = .endOfInput
  · rw [if_pos hkind]
    exact ⟨rfl, fun hne => (hne hkind).elim⟩
  · rw [if_neg hkind]
    refine (meets_beyond hleaves hkind).map ?_
    intro after hafter
    exact ⟨rfl, fun _ => hafter⟩

theorem meets_closeParen (hleaves : Leaves scan taken stream) {opening : Token}
    (hmem : opening ∈ taken) (hopening : opening.kind = .openParen) :
    Meets (fun result => ∃ closing : Token, closing.kind = .closeParen ∧
        Leaves scan (taken ++ [closing]) result.2)
      (Reported registry limit scan) (closeParen stream).outcome := by
  rw [outcome_closeParen]
  by_cases hkind : stream.lookahead.kind = .closeParen
  · rw [if_pos hkind]
    have hend : stream.lookahead.kind ≠ .endOfInput := by simp [hkind]
    refine (meets_beyond hleaves hend).map ?_
    intro after hafter
    exact ⟨stream.lookahead, hkind, hafter⟩
  · rw [if_neg hkind]
    exact .unclosedParenthesis hmem hopening (Scan.shows_of_leaves hleaves) hkind

theorem meets_toNumber (htaken : ∀ token ∈ taken, token ∈ scan.tokens) {value : Value}
    (hbacked : Backed registry taken stream value) :
    Meets (fun _ => True) (Reported registry limit scan) value.toNumber := by
  cases value with
  | number x => exact trivial
  | pending name =>
      obtain ⟨token, hmem, hwaits⟩ := hbacked
      exact .unresolvedName (htaken token hmem) hwaits

variable {operand : Threshold → Evaluation Value}

theorem meets_openWith
    (hvalues : ∀ token ∈ scan.tokens, token.kind.IsNumber → ∃ x, token.value = .ok x)
    (hoperand : Accounts registry limit scan operand) {rule : Opening} {token : Token}
    (hopens : token.kind.role.opens = some rule) (hleaves : Leaves scan (taken ++ [token]) stream) :
    Meets (Reaches registry scan (taken ++ [token])) (Reported registry limit scan)
      (openWith registry operand rule token.kind.role.power token stream).outcome := by
  have hkind := Kind.of_opens hopens
  have hmem : token ∈ taken ++ [token] := by simp
  rw [outcome_openWith]
  cases rule with
  | literal =>
      obtain ⟨x, hx⟩ := hvalues token (hleaves.mem hmem) hkind
      simp only [hx]
      exact ⟨_, List.prefix_rfl, hleaves, backed_of_last taken (.inl hkind) stream x⟩
  | name =>
      refine ⟨_, List.prefix_rfl, hleaves, ?_⟩
      unfold resolve
      cases hconstant : registry.constant? token.text with
      | some x =>
          exact backed_of_last taken (.inr (.inr ⟨hkind, by simp [hconstant]⟩)) stream x
      | none => exact ⟨token, hmem, hkind, rfl, hconstant⟩
  | negate =>
      rw [hkind.2]
      refine (hoperand _ _ _ hleaves).bind ?_
      rintro ⟨value, after⟩ - ⟨⟨later, hextends, hlater, hbacked⟩, hstops⟩
      refine (meets_toNumber (fun _ => hlater.mem) hbacked).map ?_
      intro x _
      exact ⟨later, hextends, hlater, backed_of_stops rfl hstops _⟩
  | group =>
      refine (hoperand _ _ _ hleaves).bind ?_
      rintro ⟨value, after⟩ - ⟨⟨later, hextends, hlater, hbacked⟩, -⟩
      refine (meets_closeParen hlater (hextends.mem hmem) hkind).bind ?_
      rintro ⟨_, last⟩ - ⟨closing, hclosing, hlast⟩
      exact ⟨_, hextends.trans (List.prefix_append later [closing]), hlast,
        hbacked.closed hclosing last⟩

theorem meets_joinWith (hoperand : Accounts registry limit scan operand) {rule : Joining}
    {before : TokenStream} {left : Value} (hbacked : Backed registry taken before left)
    (hjoins : before.lookahead.kind.role.joins = some rule)
    (hleaves : Leaves scan (taken ++ [before.lookahead]) stream) :
    Meets (Reaches registry scan (taken ++ [before.lookahead])) (Reported registry limit scan)
      (joinWith registry operand rule before.lookahead.kind.role.power before.lookahead left
        stream).outcome := by
  have hkind := Kind.of_joins hjoins
  have hmem : before.lookahead ∈ taken ++ [before.lookahead] := by simp
  rw [outcome_joinWith]
  cases rule with
  | binary operator =>
      rw [hkind.2]
      have hfifty : (Threshold.rightOperand operator.strength operator.associativity).admits 50 =
          true := by
        cases operator <;> rfl
      have hleft : ∀ token ∈ taken, token ∈ scan.tokens :=
        fun _ htoken => hleaves.mem (List.mem_append_left _ htoken)
      refine (meets_toNumber hleft hbacked).bind ?_
      intro x _ _
      refine (hoperand _ _ _ hleaves).bind ?_
      rintro ⟨right, after⟩ - ⟨⟨later, hextends, hlater, hright⟩, hstops⟩
      refine (meets_toNumber (fun _ => hlater.mem) hright).map ?_
      intro y _
      exact ⟨later, hextends, hlater, backed_of_stops hfifty hstops _⟩
  | call =>
      cases left with
      | number x =>
          obtain ⟨front, last, rfl, hends⟩ := hbacked hkind.1
          obtain ⟨back, _, htokens, _⟩ := hleaves
          have hadjacent : scan.tokens = front ++ last :: before.lookahead :: back := by
            rw [htokens]
            simp
          exact .notAFunction _ hadjacent hends hkind.1
      | pending name =>
          obtain ⟨token, htoken, hwaits⟩ := hbacked
          have hname := hleaves.mem (List.mem_append_left _ htoken)
          refine (hoperand _ _ _ hleaves).bind ?_
          rintro ⟨argument, after⟩ - ⟨⟨later, hextends, hlater, hargument⟩, -⟩
          refine (meets_closeParen hlater (hextends.mem hmem) hkind.1).bind ?_
          rintro ⟨_, last⟩ - ⟨closing, hclosing, hlast⟩
          cases hfunction : registry.function? name with
          | none => exact .unknownFunction hname hwaits hfunction
          | some function =>
              refine (meets_toNumber (fun _ => hlater.mem) hargument).map ?_
              intro x _
              exact ⟨_, hextends.trans (List.prefix_append later [closing]), hlast,
                backed_of_last later (.inr (.inl hclosing)) last _⟩

theorem meets_climb (hconsumes : ∀ threshold, Consumes (operand threshold))
    (hoperand : Accounts registry limit scan operand) (threshold : Threshold) {start : List Token}
    {left : Value} (hstart : start <+: taken) (hleaves : Leaves scan taken stream)
    (hbacked : Backed registry taken stream left) :
    Meets (fun result => Reaches registry scan start result ∧ threshold.Stops result.2)
      (Reported registry limit scan) (climb registry operand threshold left stream).outcome := by
  let invariant : Value → TokenStream → Prop := fun value after =>
    Reaches registry scan start (value, after)
  have hreached : invariant left stream := ⟨taken, hstart, hleaves, hbacked⟩
  refine meets_climb_of_turns registry hconsumes ?_ hreached
  rintro left stream rule ⟨taken, hstart, hleaves, hbacked⟩ hjoins -
  refine (meets_advance hleaves).bind ?_
  rintro ⟨token, middle⟩ - ⟨rfl, hmiddle⟩
  have hmiddle := hmiddle (Kind.ne_endOfInput_of_joins hjoins)
  refine (meets_joinWith hoperand hbacked hjoins hmiddle).mono ?_
  rintro ⟨joined, last⟩ ⟨later, hextends, hlater, hjoined⟩
  exact ⟨later, hstart.trans ((List.prefix_append taken _).trans hextends), hlater, hjoined⟩

theorem accounts_expressionWith
    (hvalues : ∀ token ∈ scan.tokens, token.kind.IsNumber → ∃ x, token.value = .ok x)
    (hconsumes : ∀ threshold, Consumes (operand threshold))
    (hoperand : Accounts registry limit scan operand) :
    Accounts registry limit scan (expressionWith registry operand) := by
  intro threshold taken stream hleaves
  rw [outcome_expressionWith]
  refine (meets_advance hleaves).bind ?_
  rintro ⟨token, middle⟩ - ⟨rfl, hmiddle⟩
  cases hopens : stream.lookahead.kind.role.opens with
  | none =>
      dsimp only
      refine .unexpectedToken (Scan.shows_of_leaves hleaves) ?_ ?_
      · intro hkind
        simp [hkind, Kind.role] at hopens
      · intro hkind
        simp [hkind, Kind.role] at hopens
  | some rule =>
      dsimp only
      have hmiddle := hmiddle (Kind.ne_endOfInput_of_opens hopens)
      refine (meets_openWith hvalues hoperand hopens hmiddle).bind ?_
      rintro ⟨first, second⟩ - ⟨later, hextends, hlater, hbacked⟩
      exact meets_climb hconsumes hoperand threshold ((List.prefix_append taken _).trans hextends)
        hlater hbacked

end Step

theorem accounts_expression (registry : Registry) (limit levels : Nat) {scan : Scan}
    (hvalues : ∀ token ∈ scan.tokens, token.kind.IsNumber → ∃ x, token.value = .ok x) :
    Accounts registry limit scan (expression registry limit levels) := by
  induction levels with
  | zero => exact fun _ _ _ _ => .nestedTooDeeply
  | succ levels ih =>
      intro threshold taken stream hleaves
      exact accounts_expressionWith hvalues (consumes_expression registry limit levels) ih threshold
        taken stream hleaves

/-! ## Whole formulas -/

theorem meets_whole (registry : Registry) (limit : Nat) {scan : Scan} {stream : TokenStream}
    (hvalues : ∀ token ∈ scan.tokens, token.kind.IsNumber → ∃ x, token.value = .ok x)
    (hkinds : ∀ token ∈ scan.tokens, token.kind ≠ .endOfInput)
    (hleaves : Leaves scan [] stream) :
    Meets (fun _ => scan.toExcept = .ok scan.tokens) (Reported registry limit scan)
      (whole registry limit stream).outcome := by
  rw [outcome_whole]
  refine (accounts_expression registry limit limit hvalues .lowest [] stream hleaves).bind ?_
  rintro ⟨value, last⟩ - ⟨⟨taken, -, hlast, hbacked⟩, hstops⟩
  by_cases hend : last.lookahead.kind = .endOfInput
  · rw [if_pos hend]
    refine (meets_toNumber (fun _ => hlast.mem) hbacked).map ?_
    intro x _
    rcases Scan.shows_of_leaves hlast with ⟨later, htokens⟩ | ⟨_, length, hclean, _⟩
    · exact (hkinds last.lookahead (by simp [htokens]) hend).elim
    · simp only [Scan.toExcept, hclean]
  · rw [if_neg hend]
    refine .unexpectedToken (Scan.shows_of_leaves hlast) ?_ ?_
    · intro hkind
      have := hstops (.binary .subtract) (by rw [hkind]; rfl)
      rw [hkind] at this
      cases this
    · intro hkind
      have := hstops .call (by rw [hkind]; rfl)
      rw [hkind] at this
      cases this

/-- A formula that has a value is made up of its tokens.  If it has none, its
tokens give the reason. -/
theorem meets_evaluateWithin (registry : Registry) (limit : Nat) (input : String) :
    Meets (fun _ => tokenize input = .ok (Scan.ofText input).tokens)
      (Reported registry limit (Scan.ofText input)) (evaluateWithin registry limit input) := by
  rw [evaluateWithin_eq]
  cases hread : (TokenStream.ofText input).outcome with
  | error error =>
      exact reported_of_error? (TokenStream.error?_of_outcome_ofLexer hread)
  | ok stream =>
      refine (meets_whole registry limit (Scan.exists_value input) (Scan.kind_ne_endOfInput input)
        (TokenStream.leaves_of_ofLexer hread)).bind ?_
      intro _ _ htokens
      exact htokens

end Formula
