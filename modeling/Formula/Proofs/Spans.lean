import Formula.Proofs.Errors.Reported
import Mathlib.Data.List.Basic

/-!
# The tokens of an expression

An expression with a value takes some tokens, in which parentheses are balanced,
and ends before a token that does not extend it.  Its value waits for an argument
only if the tokens are a single name within parentheses: whatever joins a value
to something makes a number, and so does a minus sign.
-/

namespace Formula

open Evaluation
open TokenStream (Takes)

/-! ## Parentheses -/

def openings (tokens : List Token) : Nat :=
  tokens.countP fun token => token.kind = .openParen

def closings (tokens : List Token) : Nat :=
  tokens.countP fun token => token.kind = .closeParen

@[simp] theorem openings_nil : openings [] = 0 :=
  rfl

@[simp] theorem closings_nil : closings [] = 0 :=
  rfl

@[simp] theorem openings_cons (token : Token) (tokens : List Token) :
    openings (token :: tokens) = openings tokens + if token.kind = .openParen then 1 else 0 := by
  simp [openings, List.countP_cons]

@[simp] theorem closings_cons (token : Token) (tokens : List Token) :
    closings (token :: tokens) = closings tokens + if token.kind = .closeParen then 1 else 0 := by
  simp [closings, List.countP_cons]

@[simp] theorem openings_append (front back : List Token) :
    openings (front ++ back) = openings front + openings back :=
  List.countP_append

@[simp] theorem closings_append (front back : List Token) :
    closings (front ++ back) = closings front + closings back :=
  List.countP_append

theorem counts_of_openParen {tokens : List Token} (h : ∀ token ∈ tokens, token.kind = .openParen) :
    openings tokens = tokens.length ∧ closings tokens = 0 := by
  constructor
  · exact List.countP_eq_length.2 fun token hmem => by simp [h token hmem]
  · exact List.countP_eq_zero.2 fun token hmem => by simp [h token hmem]

theorem counts_of_closeParen {tokens : List Token}
    (h : ∀ token ∈ tokens, token.kind = .closeParen) :
    openings tokens = 0 ∧ closings tokens = tokens.length := by
  constructor
  · exact List.countP_eq_zero.2 fun token hmem => by simp [h token hmem]
  · exact List.countP_eq_length.2 fun token hmem => by simp [h token hmem]

/-- As many parentheses close as open, and up to no token more of them close than open. -/
structure Balanced (tokens : List Token) : Prop where
  total : openings tokens = closings tokens
  upTo : ∀ front, front <+: tokens → closings front ≤ openings front

theorem balanced_nil : Balanced [] := by
  refine ⟨rfl, fun front hfront => ?_⟩
  rw [List.prefix_nil.1 hfront]
  exact Nat.le_refl _

/-- A token that is no parenthesis changes nothing. -/
theorem Balanced.cons {token : Token} {tokens : List Token} (h : Balanced tokens)
    (hopening : token.kind ≠ .openParen) (hclosing : token.kind ≠ .closeParen) :
    Balanced (token :: tokens) := by
  refine ⟨by simp [hopening, hclosing, h.total], fun front hfront => ?_⟩
  rcases List.prefix_cons_iff.1 hfront with rfl | ⟨later, rfl, hlater⟩
  · exact Nat.le_refl _
  · simpa [hopening, hclosing] using h.upTo later hlater

theorem Balanced.append {front back : List Token} (hfront : Balanced front)
    (hback : Balanced back) : Balanced (front ++ back) := by
  refine ⟨by simp [hfront.total, hback.total], fun part hpart => ?_⟩
  rcases List.prefix_or_prefix_of_prefix hpart (List.prefix_append front back) with h | h
  · exact hfront.upTo part h
  · obtain ⟨later, rfl⟩ := h
    have hlater := hback.upTo later ((List.prefix_append_right_inj front).1 hpart)
    simpa [hfront.total] using hlater

theorem Balanced.group {opening closing : Token} {tokens : List Token} (h : Balanced tokens)
    (hopening : opening.kind = .openParen) (hclosing : closing.kind = .closeParen) :
    Balanced (opening :: (tokens ++ [closing])) := by
  have htotal : openings (opening :: (tokens ++ [closing])) =
      closings (opening :: (tokens ++ [closing])) := by
    simp [hopening, hclosing, h.total]
  refine ⟨htotal, fun front hfront => ?_⟩
  rcases List.prefix_cons_iff.1 hfront with rfl | ⟨later, rfl, hlater⟩
  · exact Nat.le_refl _
  · rcases List.prefix_concat_iff.1 hlater with rfl | hinside
    · exact Nat.le_of_eq htotal.symm
    · have hle := h.upTo later hinside
      simp only [openings_cons, closings_cons, hopening, reduceIte, reduceCtorEq]
      omega

/-! ## Names within parentheses -/

section Wraps

variable {registry : Registry} {name : String}

/-- The tokens are a name that waits for an argument, within parentheses of which as many
close as open. -/
def Wraps (registry : Registry) (name : String) (tokens : List Token) : Prop :=
  ∃ opens token closes, tokens = opens ++ token :: closes ∧ opens.length = closes.length ∧
    (∀ opening ∈ opens, opening.kind = .openParen) ∧
    (∀ closing ∈ closes, closing.kind = .closeParen) ∧ token.Waits registry name

theorem wraps_of_waits {token : Token} (h : token.Waits registry name) :
    Wraps registry name [token] :=
  ⟨[], token, [], rfl, rfl, by simp, by simp, h⟩

/-- A name comes first, or a parenthesis before it. -/
theorem Wraps.kind_head {token : Token} {tokens : List Token}
    (h : Wraps registry name (token :: tokens)) :
    token.kind = .openParen ∨ (tokens = [] ∧ token.Waits registry name) := by
  obtain ⟨opens, last, closes, heq, hlength, hopens, _, hwaits⟩ := h
  cases opens with
  | nil =>
      have hnil := List.eq_nil_of_length_eq_zero hlength.symm
      rw [hnil, List.nil_append] at heq
      cases heq
      exact .inr ⟨rfl, hwaits⟩
  | cons opening opens =>
      injection heq with heq
      exact .inl (heq ▸ hopens opening List.mem_cons_self)

/-- The outermost parentheses belong together. -/
theorem wraps_group_iff {opening closing : Token} {tokens : List Token}
    (hopening : opening.kind = .openParen) (hclosing : closing.kind = .closeParen) :
    Wraps registry name (opening :: (tokens ++ [closing])) ↔ Wraps registry name tokens := by
  constructor
  · rintro ⟨opens, token, closes, heq, hlength, hopens, hcloses, hwaits⟩
    cases opens with
    | nil =>
        injection heq with hhead
        have hname := hwaits.1
        rw [← hhead, hopening] at hname
        cases hname
    | cons first opens =>
        rcases List.eq_nil_or_concat' closes with rfl | ⟨closes, last, rfl⟩
        · cases hlength
        · obtain ⟨-, hrest⟩ := List.cons.inj heq
          have hinner : tokens ++ [closing] = (opens ++ token :: closes) ++ [last] := by
            simpa using hrest
          obtain ⟨rfl, _⟩ := List.append_inj' hinner rfl
          rw [List.length_cons, List.length_append] at hlength
          exact ⟨opens, token, closes, rfl, Nat.succ.inj hlength,
            fun other hmem => hopens other (List.mem_cons_of_mem first hmem),
            fun other hmem => hcloses other (List.mem_append_left [last] hmem), hwaits⟩
  · rintro ⟨opens, token, closes, rfl, hlength, hopens, hcloses, hwaits⟩
    refine ⟨opening :: opens, token, closes ++ [closing], by simp, by simp [hlength], ?_, ?_,
      hwaits⟩
    · simpa [hopening] using hopens
    · simpa [or_imp, forall_and, hclosing] using hcloses

/-- Parentheses around a name are balanced only where all of them have closed. -/
theorem Wraps.eq_nil_of_balanced {front back : List Token}
    (h : Wraps registry name (front ++ back)) (hfront : Balanced front) (hne : front ≠ []) :
    back = [] := by
  obtain ⟨opens, token, closes, heq, hlength, hopens, hcloses, hwaits⟩ := h
  have hnone : ¬ ∀ other ∈ front, other.kind = .openParen := by
    intro hall
    have hcounts := counts_of_openParen hall
    have hzero : front.length = 0 := by rw [← hcounts.1, hfront.total, hcounts.2]
    exact hne (List.eq_nil_of_length_eq_zero hzero)
  -- up to the name nothing has closed, and behind it all that closes is needed
  rcases List.append_eq_append_iff.1 heq with ⟨middle, rfl, _⟩ | ⟨middle, rfl, hrest⟩
  · exact (hnone fun other hmem => hopens other (List.mem_append_left middle hmem)).elim
  · cases middle with
    | nil => exact (hnone (by simpa using hopens)).elim
    | cons first middle =>
        rw [List.cons_append] at hrest
        obtain ⟨rfl, rfl⟩ := List.cons.inj hrest
        have hopened := counts_of_openParen hopens
        have hclosed := counts_of_closeParen fun other hmem =>
          hcloses other (List.mem_append_left back hmem)
        have htotal := hfront.total
        simp only [openings_append, closings_append, openings_cons, closings_cons, hwaits.1,
          hopened, hclosed, reduceCtorEq, if_false] at htotal
        rw [List.length_append] at hlength
        exact List.eq_nil_of_length_eq_zero (by omega)

end Wraps

/-! ## Steps -/

/-- The tokens are balanced, and their value waits only if they are a name within parentheses. -/
structure Spans (registry : Registry) (tokens : List Token) (value : Value) : Prop where
  ne_nil : tokens ≠ []
  balanced : Balanced tokens
  pending_iff : ∀ name, value = .pending name ↔ Wraps registry name tokens

/-- The tokens that operands with a value take span it, and none that follows extends it. -/
def SpansEach (registry : Registry) (operand : Threshold → Evaluation Value) : Prop :=
  ∀ threshold stream value after, (operand threshold stream).outcome = .ok (value, after) →
    ∃ tokens, Takes stream tokens after ∧ Spans registry tokens value ∧ threshold.Stops after

/-- What has been taken so far and what is taken from here on span the value together. -/
def SpansOnward (registry : Registry) (front : List Token) (stream : TokenStream) (value : Value)
    (after : TokenStream) : Prop :=
  ∃ tokens, Takes stream tokens after ∧ Spans registry (front ++ tokens) value

section Step

variable {registry : Registry} {operand : Threshold → Evaluation Value}

theorem spans_number {tokens : List Token} (hne : tokens ≠ []) (hbalanced : Balanced tokens)
    (hwraps : ∀ name, ¬ Wraps registry name tokens) (x : Float) :
    Spans registry tokens (.number x) :=
  ⟨hne, hbalanced, fun name => ⟨nofun, fun h => (hwraps name h).elim⟩⟩

theorem spans_single {token : Token} {value : Value} (hopening : token.kind ≠ .openParen)
    (hclosing : token.kind ≠ .closeParen)
    (hpending : ∀ name, value = .pending name ↔ token.Waits registry name) :
    Spans registry [token] value := by
  refine ⟨by simp, balanced_nil.cons hopening hclosing, fun name => (hpending name).trans ?_⟩
  refine ⟨wraps_of_waits, fun h => ?_⟩
  exact (h.kind_head.resolve_left hopening).2

theorem spans_group {opening closing : Token} {tokens : List Token} {value : Value}
    (h : Spans registry tokens value) (hopening : opening.kind = .openParen)
    (hclosing : closing.kind = .closeParen) :
    Spans registry (opening :: (tokens ++ [closing])) value := by
  refine ⟨by simp, h.balanced.group hopening hclosing, fun name => ?_⟩
  rw [h.pending_iff, wraps_group_iff hopening hclosing]

/-- Whatever is joined to what follows is a number. -/
theorem Spans.joined {front back : List Token} {token : Token} {left : Value}
    (h : Spans registry front left) (hback : Balanced (token :: back)) (x : Float) :
    Spans registry (front ++ token :: back) (.number x) := by
  refine spans_number (by simp) (h.balanced.append hback) ?_ x
  intro name hwraps
  cases hwraps.eq_nil_of_balanced h.balanced h.ne_nil

/-- A name waits unless it is a constant. -/
theorem resolve_eq_pending_iff {token : Token} (hkind : token.kind = .name) (name : String) :
    resolve registry token.text = .pending name ↔ token.Waits registry name := by
  unfold resolve Token.Waits
  cases hconstant : registry.constant? token.text with
  | some x =>
      refine ⟨nofun, ?_⟩
      rintro ⟨_, rfl, hnone⟩
      rw [hconstant] at hnone
      cases hnone
  | none =>
      constructor
      · rintro ⟨⟩
        exact ⟨hkind, rfl, hconstant⟩
      · rintro ⟨_, rfl, _⟩
        rfl

theorem spans_openWith (hoperand : SpansEach registry operand) {rule : Opening} {token : Token}
    {value : Value} {stream after : TokenStream} (hopens : token.kind.role.opens = some rule)
    (h : (openWith registry operand rule token.kind.role.power token stream).outcome =
      .ok (value, after)) : SpansOnward registry [token] stream value after := by
  have hkind := Kind.of_opens hopens
  have hopened := openWith_eq_ok h
  cases rule with
  | literal =>
      obtain ⟨x, _, rfl, rfl⟩ := hopened
      have hplain : token.kind ≠ .openParen ∧ token.kind ≠ .closeParen ∧ token.kind ≠ .name := by
        rcases hkind with hkind | hkind <;> simp [hkind]
      refine ⟨[], .nothing _, spans_single hplain.1 hplain.2.1 fun name => ?_⟩
      exact ⟨nofun, fun hwaits => (hplain.2.2 hwaits.1).elim⟩
  | name =>
      obtain ⟨rfl, rfl⟩ := hopened
      refine ⟨[], .nothing _, spans_single (by simp [hkind]) (by simp [hkind]) ?_⟩
      exact resolve_eq_pending_iff hkind
  | negate =>
      obtain ⟨x, hinner, rfl⟩ := hopened
      obtain ⟨tokens, htakes, hspans, _⟩ := hoperand _ _ _ _ hinner
      have hopening : token.kind ≠ .openParen := by simp [hkind.1]
      refine ⟨tokens, htakes, spans_number (by simp) ?_ ?_ _⟩
      · exact hspans.balanced.cons hopening (by simp [hkind.1])
      · intro name hwraps
        exact hspans.ne_nil (hwraps.kind_head.resolve_left hopening).1
  | group =>
      obtain ⟨middle, hinner, hclose⟩ := hopened
      obtain ⟨tokens, htakes, hspans, _⟩ := hoperand _ _ _ _ hinner
      obtain ⟨closing, hclosing, htaken⟩ := takes_of_closeParen hclose
      exact ⟨tokens ++ [closing], htakes.trans htaken, spans_group hspans hkind hclosing⟩

theorem spans_joinWith (hoperand : SpansEach registry operand) {rule : Joining} {token : Token}
    {front : List Token} {left value : Value} {stream after : TokenStream}
    (hfront : Spans registry front left) (hjoins : token.kind.role.joins = some rule)
    (h : (joinWith registry operand rule token.kind.role.power token left stream).outcome =
      .ok (value, after)) :
    ∃ tokens, Takes stream tokens after ∧ Spans registry (front ++ token :: tokens) value := by
  have hkind := Kind.of_joins hjoins
  have hjoined := joinWith_eq_ok h
  cases rule with
  | binary operator =>
      obtain ⟨x, y, _, hright, rfl⟩ := hjoined
      obtain ⟨tokens, htakes, hspans, _⟩ := hoperand _ _ _ _ hright
      have hplain : token.kind ≠ .openParen ∧ token.kind ≠ .closeParen := by
        rw [hkind.1]
        cases operator <;> decide
      exact ⟨tokens, htakes, hfront.joined (hspans.balanced.cons hplain.1 hplain.2) _⟩
  | call =>
      obtain ⟨name, function, x, middle, _, hargument, hclose, _, rfl⟩ := hjoined
      obtain ⟨tokens, htakes, hspans, _⟩ := hoperand _ _ _ _ hargument
      obtain ⟨closing, hclosing, htaken⟩ := takes_of_closeParen hclose
      exact ⟨tokens ++ [closing], htakes.trans htaken,
        hfront.joined (hspans.balanced.group hkind.1 hclosing) _⟩

/-- A turn of the loop goes on with the tokens of its operator and its operand. -/
theorem SpansOnward.turn (hoperand : SpansEach registry operand) {front : List Token}
    {start stream after : TokenStream} {left value : Value} {rule : Joining}
    (hspans : SpansOnward registry front start left stream)
    (hjoins : stream.lookahead.kind.role.joins = some rule)
    (h : ((advance stream).outcome >>= fun taken =>
      (joinWith registry operand rule stream.lookahead.kind.role.power taken.1 left
        taken.2).outcome) = .ok (value, after)) :
    SpansOnward registry front start value after := by
  obtain ⟨tokens, htakes, hleft⟩ := hspans
  obtain ⟨⟨token, middle⟩, hadvance, hjoin⟩ := bind_eq_ok.1 h
  have htaken := takes_of_advance (Kind.ne_endOfInput_of_joins hjoins) hadvance
  obtain rfl := eq_lookahead_of_advance hadvance
  obtain ⟨more, hmore, hlast⟩ := spans_joinWith hoperand hleft hjoins hjoin
  rw [List.append_assoc] at hlast
  exact ⟨tokens ++ stream.lookahead :: more, htakes.trans (htaken.trans hmore), hlast⟩

theorem spans_climb (hconsumes : ∀ threshold, Consumes (operand threshold))
    (hoperand : SpansEach registry operand) {threshold : Threshold} {front : List Token}
    {left value : Value} {stream after : TokenStream} (hfront : Spans registry front left)
    (h : (climb registry operand threshold left stream).outcome = .ok (value, after)) :
    SpansOnward registry front stream value after ∧ threshold.Stops after := by
  have hstart : SpansOnward registry front stream left stream :=
    ⟨[], .nothing stream, by rw [List.append_nil]; exact hfront⟩
  have hmeets : Meets
      (fun result => SpansOnward registry front stream result.1 result.2 ∧
        threshold.Stops result.2) (fun _ => True)
      (climb registry operand threshold left stream).outcome := by
    refine meets_climb_of_turns registry hconsumes ?_ hstart
    intro _ _ _ hspans hjoins _
    exact meets_of_eq_ok fun _ hturn => hspans.turn hoperand hjoins hturn
  rw [h] at hmeets
  exact hmeets

theorem spans_expressionWith (hconsumes : ∀ threshold, Consumes (operand threshold))
    (hoperand : SpansEach registry operand) :
    SpansEach registry (expressionWith registry operand) := by
  intro threshold stream value after h
  rw [outcome_expressionWith] at h
  obtain ⟨⟨token, middle⟩, hadvance, hrest⟩ := bind_eq_ok.1 h
  obtain rfl := eq_lookahead_of_advance hadvance
  cases hopens : stream.lookahead.kind.role.opens with
  | none => simp [hopens] at hrest
  | some rule =>
      simp only [hopens] at hrest
      obtain ⟨⟨first, second⟩, hopen, hclimb⟩ := bind_eq_ok.1 hrest
      have htaken := takes_of_advance (Kind.ne_endOfInput_of_opens hopens) hadvance
      obtain ⟨tokens, htakes, hspans⟩ := spans_openWith hoperand hopens hopen
      obtain ⟨⟨later, hlater, hlast⟩, hstops⟩ := spans_climb hconsumes hoperand hspans hclimb
      exact ⟨stream.lookahead :: tokens ++ later, (htaken.trans htakes).trans hlater, hlast, hstops⟩

end Step

theorem spans_expression (registry : Registry) (limit levels : Nat) :
    SpansEach registry (expression registry limit levels) := by
  induction levels with
  | zero => exact fun _ _ _ _ h => nomatch h
  | succ levels ih =>
      intro threshold stream value after h
      exact spans_expressionWith (consumes_expression registry limit levels) ih threshold stream
        value after h

/-- An expression with a value takes at least one token, and the parentheses in what it takes
are balanced.  The token behind it does not extend it.  Its value waits for an argument exactly
if what it takes is a name that is no constant, within parentheses. -/
theorem Evaluation.expression_contract (registry : Registry) (limit levels : Nat)
    (threshold : Threshold) {stream after : TokenStream} {value : Value}
    (h : (expression registry limit levels threshold stream).outcome = .ok (value, after)) :
    ∃ tokens, Takes stream tokens after ∧ tokens ≠ [] ∧ Balanced tokens ∧
      (after.lookahead.kind.role.joins = none ∨
        threshold.admits after.lookahead.kind.role.power = false) ∧
      ∀ name, value = .pending name ↔ Wraps registry name tokens := by
  obtain ⟨tokens, htakes, hspans, hstops⟩ :=
    spans_expression registry limit levels threshold stream value after h
  refine ⟨tokens, htakes, hspans.ne_nil, hspans.balanced, ?_, hspans.pending_iff⟩
  cases hjoins : after.lookahead.kind.role.joins with
  | none => exact .inl rfl
  | some rule => exact .inr (hstops rule hjoins)

/-- Above the power of the plus sign, `((f))` is all that is taken of `((f))+1`. -/
theorem Evaluation.expression_contract_pending_name :
    ∃ stream after, (TokenStream.ofText "((f))+1").outcome = .ok stream ∧
      (expression .empty 4 3 (.above 10) stream).outcome = .ok (.pending "f", after) ∧
      after.lookahead = ⟨.plus, "+", 5⟩ ∧
      ∃ tokens, Takes stream tokens after ∧ tokens ≠ [] ∧ Balanced tokens ∧
        (after.lookahead.kind.role.joins = none ∨
          (Threshold.above 10).admits after.lookahead.kind.role.power = false) ∧
        ∀ name, .pending "f" = Value.pending name ↔ Wraps .empty name tokens := by
  let stream : TokenStream := ⟨⟨"((f))+1", ⟨1, ['(', 'f', ')', ')', '+', '1']⟩, false⟩,
    ⟨.openParen, "(", 0⟩⟩
  let after : TokenStream := ⟨⟨"((f))+1", ⟨6, ['1']⟩, false⟩, ⟨.plus, "+", 5⟩⟩
  have hread : (TokenStream.ofText "((f))+1").outcome = .ok stream := by decide +kernel
  have hvalue : (expression .empty 4 3 (.above 10) stream).outcome = .ok (.pending "f", after) := by
    decide +kernel
  exact ⟨stream, after, hread, hvalue, rfl, expression_contract .empty 4 3 (.above 10) hvalue⟩

end Formula
