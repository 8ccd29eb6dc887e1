import Formula.Proofs.Errors.Reported
import Formula.Proofs.Grammar.Prefixes
import Formula.Proofs.Nesting

/-!
# Errors at tokens that are not due

Where all names are constants, what is due next is kept while tokens are taken.
Operands come to numbers behind which an operator is due, and evaluation fails
only at a token that is not due.
-/

namespace Formula

open Evaluation
open TokenStream (Leaves)

/-- The errors that point at a token. -/
inductive Error.Refuses (token : Token) : Error → Prop
  | unexpectedToken : Refuses token (.unexpectedToken token.display token.position)
  | unclosedParenthesis : Refuses token (.unclosedParenthesis token.position)
  | notAFunction (found : String) : Refuses token (.notAFunction found token.position)

/-- All that is found is tokens, the numbers with a value and the names constants. -/
structure Scan.Plain (registry : Registry) (scan : Scan) : Prop where
  clean : ∃ length, scan.ending = .clean length
  values : ∀ token ∈ scan.tokens, token.kind.IsNumber → ∃ x, token.value = .ok x
  constants : ∀ token ∈ scan.tokens, token.kind = .name →
    (registry.constant? token.text).isSome = true

/-- Behind the tokens that have been taken, something is due. -/
def Awaits (registry : Registry) (scan : Scan) (due : Due) (stream : TokenStream) : Prop :=
  ∃ taken, Leaves scan taken stream ∧
    (Due.operand 0).along registry (taken.map Token.content) = some due

/-- Evaluation fails at a token that is not due, or because of its limit. -/
inductive Halts (registry : Registry) (limit : Nat) (scan : Scan) : Error → Prop
  | refused {taken : List Token} {token : Token} {due : Due} {error : Error}
      (hshows : scan.Shows taken token)
      (halong : (Due.operand 0).along registry (taken.map Token.content) = some due)
      (hnext : due.next registry token.content = none) (herror : error.Refuses token) :
      Halts registry limit scan error
  | nestedTooDeeply : Halts registry limit scan (.nestedTooDeeply limit)

/-- A number behind which an operator is due. -/
def Stands (registry : Registry) (scan : Scan) (depth : Nat) (value : Value)
    (stream : TokenStream) : Prop :=
  (∃ x, value = .number x) ∧ Awaits registry scan (.operator depth) stream

/-- Operands that are due come to numbers, or to an error at a token that is not due. -/
def Proceeds (registry : Registry) (limit : Nat) (scan : Scan)
    (operand : Threshold → Evaluation Value) : Prop :=
  ∀ threshold depth stream, Awaits registry scan (.operand depth) stream →
    Meets (fun result => Stands registry scan depth result.1 result.2 ∧ threshold.Stops result.2)
      (Halts registry limit scan) (operand threshold stream).outcome

/-- Nothing that joins comes where everything would be joined. -/
theorem joins_of_stops_lowest {stream : TokenStream} (h : Threshold.lowest.Stops stream) :
    stream.lookahead.kind.role.joins = none := by
  have hadmits : ∀ power ∈ [10, 20, 30, 50], Threshold.lowest.admits power = true := by decide
  cases hjoins : stream.lookahead.kind.role.joins with
  | none => rfl
  | some rule =>
      have hstops := h rule hjoins
      rw [hadmits _ (Kind.power_of_joins hjoins)] at hstops
      cases hstops

/-! ## Steps -/

section Step

variable {registry : Registry} {limit : Nat} {scan : Scan} {stream : TokenStream}

/-- At a token that is not due, evaluation may fail. -/
theorem Awaits.halts {due : Due} (h : Awaits registry scan due stream)
    (hnext : due.next registry stream.lookahead.content = none) {error : Error}
    (herror : error.Refuses stream.lookahead) : Halts registry limit scan error := by
  obtain ⟨taken, hleaves, halong⟩ := h
  exact .refused (Scan.shows_of_leaves hleaves) halong hnext herror

theorem Awaits.mem {due : Due} (h : Awaits registry scan due stream)
    (hkind : stream.lookahead.kind ≠ .endOfInput) : stream.lookahead ∈ scan.tokens := by
  obtain ⟨taken, hleaves, _⟩ := h
  rcases Scan.shows_of_leaves hleaves with ⟨later, htokens⟩ | ⟨_, length, _, hlookahead⟩
  · rw [htokens]
    exact List.mem_append_right _ List.mem_cons_self
  · rw [hlookahead] at hkind
    exact absurd rfl hkind

/-- There is always something to read behind a token. -/
theorem Scan.Plain.beyond (hplain : scan.Plain registry) {taken : List Token}
    (hleaves : Leaves scan taken stream) (hkind : stream.lookahead.kind ≠ .endOfInput) :
    ∃ after, (TokenStream.ofLexer stream.lexer).outcome = .ok after ∧
      Leaves scan (taken ++ [stream.lookahead]) after := by
  obtain ⟨length, hclean⟩ := hplain.clean
  have hbeyond := hleaves.beyond hkind
  cases hread : (TokenStream.ofLexer stream.lexer).outcome with
  | error error =>
      rw [hread, hclean] at hbeyond
      cases hbeyond
  | ok after =>
      rw [hread] at hbeyond
      exact ⟨after, rfl, hbeyond⟩

/-- Behind a token that is due, the next thing is. -/
theorem Awaits.beyond (hplain : scan.Plain registry) {due later : Due}
    (h : Awaits registry scan due stream) (hkind : stream.lookahead.kind ≠ .endOfInput)
    (hnext : due.next registry stream.lookahead.content = some later) :
    ∃ after, (TokenStream.ofLexer stream.lexer).outcome = .ok after ∧
      Awaits registry scan later after := by
  obtain ⟨taken, hleaves, halong⟩ := h
  obtain ⟨after, hread, hafter⟩ := hplain.beyond hleaves hkind
  refine ⟨after, hread, taken ++ [stream.lookahead], hafter, ?_⟩
  rw [List.map_append, Due.along_append, halong, Option.bind_some, List.map_singleton,
    Due.along_cons, hnext]
  rfl

theorem Awaits.advance (hplain : scan.Plain registry) {due later : Due}
    (h : Awaits registry scan due stream) (hkind : stream.lookahead.kind ≠ .endOfInput)
    (hnext : due.next registry stream.lookahead.content = some later) :
    ∃ after, (advance stream).outcome = .ok (stream.lookahead, after) ∧
      Awaits registry scan later after := by
  obtain ⟨after, hread, hafter⟩ := h.beyond hplain hkind hnext
  exact ⟨after, advance_of_takes (.token hkind hread (.nothing after)), hafter⟩

theorem Awaits.exists_advance (hplain : scan.Plain registry) {due : Due}
    (h : Awaits registry scan due stream) :
    ∃ after, (Evaluation.advance stream).outcome = .ok (stream.lookahead, after) := by
  by_cases hkind : stream.lookahead.kind = .endOfInput
  · refine ⟨stream, ?_⟩
    rw [outcome_advance, if_pos hkind]
  · obtain ⟨taken, hleaves, _⟩ := h
    obtain ⟨after, hread, -⟩ := hplain.beyond hleaves hkind
    exact ⟨after, advance_of_takes (.token hkind hread (.nothing after))⟩

/-- A parenthesis that is open is closed, or the token is not due that stands there. -/
theorem Awaits.closeParen (hplain : scan.Plain registry) {depth : Nat}
    (h : Awaits registry scan (.operator (depth + 1)) stream)
    (hjoins : stream.lookahead.kind.role.joins = none) :
    Meets (fun result => Awaits registry scan (.operator depth) result.2)
      (Halts registry limit scan) (closeParen stream).outcome := by
  rw [outcome_closeParen]
  by_cases hkind : stream.lookahead.kind = .closeParen
  · have hend : stream.lookahead.kind ≠ .endOfInput := by simp [hkind]
    obtain ⟨after, hread, hafter⟩ := h.beyond hplain hend (Due.next_closeParen depth hkind)
    rw [if_pos hkind, hread]
    exact hafter
  · have hnext : (Due.operator (depth + 1)).next registry stream.lookahead.content = none :=
      Due.next_of_not_joins (depth + 1) hjoins (fun hclose => absurd hclose hkind)
        fun _ => Nat.succ_ne_zero depth
    rw [if_neg hkind]
    exact h.halts hnext .unclosedParenthesis

variable {operand : Threshold → Evaluation Value}

theorem proceeds_openWith (hplain : scan.Plain registry)
    (hoperand : Proceeds registry limit scan operand) {depth : Nat} {rule : Opening}
    (h : Awaits registry scan (.operand depth) stream)
    (hopens : stream.lookahead.kind.role.opens = some rule) :
    Meets (fun result => Stands registry scan depth result.1 result.2) (Halts registry limit scan)
      ((advance stream).outcome >>= fun taken =>
        (openWith registry operand rule stream.lookahead.kind.role.power taken.1
          taken.2).outcome) := by
  have hend := Kind.ne_endOfInput_of_opens hopens
  have hkind := Kind.of_opens hopens
  cases rule with
  | literal =>
      obtain ⟨after, hadvance, hafter⟩ := h.advance hplain hend (Due.next_number depth hkind)
      obtain ⟨x, hx⟩ := hplain.values _ (h.mem hend) hkind
      rw [hadvance, ok_bind, outcome_openWith]
      dsimp only
      rw [hx]
      exact ⟨⟨x, rfl⟩, hafter⟩
  | name =>
      have hconstant := hplain.constants _ (h.mem hend) hkind
      obtain ⟨after, hadvance, hafter⟩ :=
        h.advance hplain hend (Due.next_constant depth hkind hconstant)
      obtain ⟨x, hx⟩ := Option.isSome_iff_exists.1 hconstant
      rw [hadvance, ok_bind, outcome_openWith]
      refine ⟨⟨x, ?_⟩, hafter⟩
      simp only [resolve, hx]
  | negate =>
      obtain ⟨after, hadvance, hafter⟩ := h.advance hplain hend (Due.next_minus depth hkind.1)
      rw [hadvance, ok_bind, outcome_openWith]
      apply (hoperand _ depth after hafter).bind
      intro result _ hresult
      obtain ⟨x, hx⟩ := hresult.1.1
      rw [hx]
      exact ⟨⟨-x, rfl⟩, hresult.1.2⟩
  | group =>
      obtain ⟨after, hadvance, hafter⟩ := h.advance hplain hend (Due.next_openParen depth hkind)
      rw [hadvance, ok_bind, outcome_openWith]
      apply (hoperand .lowest (depth + 1) after hafter).bind
      intro result _ hresult
      apply (hresult.1.2.closeParen hplain (joins_of_stops_lowest hresult.2)).bind
      intro closed _ hclosed
      exact ⟨hresult.1.1, hclosed⟩

theorem proceeds_joinWith (hplain : scan.Plain registry)
    (hoperand : Proceeds registry limit scan operand) {depth : Nat} {left : Value}
    {rule : Joining} (h : Stands registry scan depth left stream)
    (hjoins : stream.lookahead.kind.role.joins = some rule) :
    Meets (fun result => Stands registry scan depth result.1 result.2) (Halts registry limit scan)
      ((advance stream).outcome >>= fun taken =>
        (joinWith registry operand rule stream.lookahead.kind.role.power taken.1 left
          taken.2).outcome) := by
  have hend := Kind.ne_endOfInput_of_joins hjoins
  have hkind := Kind.of_joins hjoins
  obtain ⟨⟨x, rfl⟩, hawaits⟩ := h
  cases rule with
  | binary operator =>
      obtain ⟨after, hadvance, hafter⟩ :=
        hawaits.advance hplain hend (Due.next_operator depth hkind.1)
      rw [hadvance, ok_bind, outcome_joinWith]
      apply (hoperand _ depth after hafter).bind
      intro result _ hresult
      obtain ⟨y, hy⟩ := hresult.1.1
      rw [hy]
      exact ⟨⟨operator.apply x y, rfl⟩, hresult.1.2⟩
  | call =>
      -- the parenthesis is taken, and what is behind it read, before it is refused
      obtain ⟨after, hadvance⟩ := hawaits.exists_advance hplain
      rw [hadvance, ok_bind, outcome_joinWith]
      exact hawaits.halts (Due.next_of_call depth hkind.1) (.notAFunction _)

theorem proceeds_expressionWith (hplain : scan.Plain registry)
    (hconsumes : ∀ threshold, Consumes (operand threshold))
    (hoperand : Proceeds registry limit scan operand) :
    Proceeds registry limit scan (expressionWith registry operand) := by
  intro threshold depth stream h
  obtain ⟨after, hadvance⟩ := h.exists_advance hplain
  rw [outcome_expressionWith, hadvance, ok_bind]
  cases hopens : stream.lookahead.kind.role.opens with
  | none => exact h.halts (Due.next_of_not_opens depth hopens) .unexpectedToken
  | some rule =>
      have hopen := proceeds_openWith hplain hoperand h hopens
      rw [hadvance, ok_bind] at hopen
      apply hopen.bind
      intro first _ hfirst
      exact meets_climb_of_turns registry hconsumes
        (fun _ _ _ hleft hjoins _ => proceeds_joinWith hplain hoperand hleft hjoins) hfirst

end Step

theorem proceeds_expression (registry : Registry) (limit levels : Nat) {scan : Scan}
    (hplain : scan.Plain registry) :
    Proceeds registry limit scan (expression registry limit levels) := by
  induction levels with
  | zero => exact fun _ _ _ _ => .nestedTooDeeply
  | succ levels ih =>
      intro threshold depth stream h
      exact proceeds_expressionWith hplain (consumes_expression registry limit levels) ih threshold
        depth stream h

/-- All tokens make up a number, or evaluation fails at the first one that is not due. -/
theorem meets_whole_plain (registry : Registry) (limit : Nat) {scan : Scan} {stream : TokenStream}
    (hplain : scan.Plain registry) (h : Awaits registry scan (.operand 0) stream) :
    Meets (fun _ => True) (Halts registry limit scan) (whole registry limit stream).outcome := by
  rw [outcome_whole]
  apply (proceeds_expression registry limit limit hplain .lowest 0 stream h).bind
  intro result _ hresult
  obtain ⟨x, hx⟩ := hresult.1.1
  by_cases hend : result.2.lookahead.kind = .endOfInput
  · rw [if_pos hend, hx]
    exact trivial
  · have hnext : (Due.operator 0).next registry result.2.lookahead.content = none :=
      Due.next_of_not_joins 0 (joins_of_stops_lowest hresult.2) (fun _ => rfl)
        fun hkind => absurd hkind hend
    rw [if_neg hend]
    exact hresult.1.2.halts hnext .unexpectedToken

/-- The error of a formula refuses a token that is not due behind those before it. -/
def RefusedAt (registry : Registry) (input : String) (error : Error) (front : List Token)
    (token : Token) : Prop :=
  error.Refuses token ∧ front ++ [token] <+: (Scan.ofText input).sights ∧
    ∃ due, (Due.operand 0).along registry (front.map Token.content) = some due ∧
      due.next registry token.content = none

theorem Scan.Shows.prefix_sights {input : String} {tokens taken : List Token} {token : Token}
    (htokens : tokenize input = .ok tokens) (h : (Scan.ofText input).Shows taken token) :
    taken ++ [token] <+: (Scan.ofText input).sights := by
  rw [Scan.sights_of_tokenize htokens]
  rw [Scan.eq_of_tokenize htokens] at h
  rcases h with ⟨later, rfl⟩ | ⟨rfl, length, hlength, rfl⟩
  · exact ⟨later ++ [.endOfInput input.utf8ByteSize], by simp⟩
  · cases hlength
    exact List.prefix_rfl

/-- A formula has a value, or a token of it is refused, if the limit is no hindrance. -/
theorem evaluateWithin_ok_or_refused (registry : Registry) {limit : Nat} {input : String}
    {tokens : List Token} (htokens : tokenize input = .ok tokens)
    (hconstants : ∀ token ∈ tokens, token.kind = .name →
      (registry.constant? token.text).isSome = true)
    (hlimit : tokens.length < limit) :
    (∃ x, evaluateWithin registry limit input = .ok x) ∨
      ∃ error front token, evaluateWithin registry limit input = .error error ∧
        RefusedAt registry input error front token := by
  have hscan := Scan.eq_of_tokenize htokens
  have hplain : (Scan.ofText input).Plain registry := by
    refine ⟨⟨input.utf8ByteSize, by rw [hscan]⟩, Scan.exists_value input, ?_⟩
    rw [hscan]
    exact hconstants
  have hsettled : Settled (evaluateWithin registry limit input) :=
    settled_evaluateWithin registry (by rw [hscan]; exact hlimit)
  have hmeets : Meets (fun _ => True) (Halts registry limit (Scan.ofText input))
      (evaluateWithin registry limit input) := by
    rw [evaluateWithin_eq]
    cases hread : (TokenStream.ofText input).outcome with
    | error error =>
        have hending := TokenStream.error?_of_outcome_ofLexer hread
        rw [Lexer.remainder_ofText, hscan] at hending
        cases hending
    | ok stream =>
        have hstart : Awaits registry (Scan.ofText input) (.operand 0) stream :=
          ⟨[], TokenStream.leaves_of_ofLexer hread, rfl⟩
        exact (meets_whole_plain registry limit hplain hstart).bind fun _ _ _ => trivial
  cases houtcome : evaluateWithin registry limit input with
  | ok x => exact .inl ⟨x, rfl⟩
  | error error =>
      rw [houtcome] at hmeets
      cases hmeets with
      | nestedTooDeeply => exact absurd houtcome (hsettled limit)
      | @refused taken token due _ hshows halong hnext herror =>
          exact .inr ⟨error, taken, token, rfl, herror, hshows.prefix_sights htokens, due, halong,
            hnext⟩

end Formula
