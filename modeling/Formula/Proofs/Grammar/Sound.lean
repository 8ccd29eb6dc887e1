import Formula.Proofs.Grammar.Complete
import Formula.Proofs.Layout

/-!
# Whatever has a value is derived by the grammar

While the loop extends an expression, the tokens taken so far are derived from a
symbol whose operator the threshold admits, and no token comes next that would
have to be joined to a part of them only.  The same holds of operands, so each
turn of the loop is one rule of the grammar.
-/

namespace Formula

open Evaluation TokenStream

variable {registry : Registry}

/-! ## Tokens and their roles -/

theorem Kind.of_opens {kind : Kind} {rule : Opening} (h : kind.role.opens = some rule) :
    match rule with
    | .literal => kind = .decimal ∨ kind = .integer
    | .name => kind = .name
    | .negate => kind = .minus ∧ kind.role.power = 10
    | .group => kind = .openParen := by
  cases kind <;> cases h <;> simp [Kind.role]

theorem Kind.of_joins {kind : Kind} {rule : Joining} (h : kind.role.joins = some rule) :
    match rule with
    | .binary operator => kind = operator.kind ∧ kind.role.power = operator.strength
    | .call => kind = .openParen ∧ kind.role.power = 50 := by
  cases kind <;> cases h <;> exact ⟨rfl, rfl⟩

/-- Only four powers join. -/
theorem Kind.power_of_joins {kind : Kind} {rule : Joining} (h : kind.role.joins = some rule) :
    kind.role.power ∈ [10, 20, 30, 50] := by
  cases kind <;> cases h <;> decide

theorem letsFollow_of_stops {threshold : Threshold} {stream : TokenStream} {bound : Nat}
    (h : threshold.Stops stream)
    (hbound : ∀ power ∈ [10, 20, 30, 50], threshold.admits power = false → power ≤ bound) :
    stream.LetsFollow bound := by
  intro rule hjoins
  exact hbound _ (Kind.power_of_joins hjoins) (h rule hjoins)

theorem letsFollow_fifty (stream : TokenStream) : stream.LetsFollow 50 := by
  intro rule hjoins
  have hbound : ∀ power ∈ [10, 20, 30, 50], power ≤ 50 := by decide
  exact hbound _ (Kind.power_of_joins hjoins)

/-! ## Rules with one symbol on their right -/

section Lift

variable {symbol : Symbol} {tokens : List Token} {x : Float} {nesting : Nat}

theorem Derives.primary (h : Derives registry symbol tokens x nesting)
    (hfollow : 30 ≤ symbol.follow) : Derives registry .primary tokens x nesting := by
  cases symbol with
  | primary => exact h
  | _ => simp [Symbol.follow] at hfollow

theorem Derives.factor (h : Derives registry symbol tokens x nesting)
    (hstrength : 30 ≤ symbol.strength) (hfollow : 20 ≤ symbol.follow) :
    Derives registry .factor tokens x nesting := by
  cases symbol with
  | factor => exact h
  | primary => exact .chain .primary h
  | _ => simp [Symbol.strength, Symbol.follow] at hstrength hfollow

theorem Derives.product (h : Derives registry symbol tokens x nesting)
    (hfollow : 20 ≤ symbol.follow) : Derives registry .product tokens x nesting := by
  cases symbol with
  | product => exact h
  | factor | primary => exact .chain .factor (h.factor (by decide) (by decide))
  | _ => simp [Symbol.follow] at hfollow

theorem Derives.term (h : Derives registry symbol tokens x nesting)
    (hstrength : 20 ≤ symbol.strength) : Derives registry .term tokens x nesting := by
  cases symbol with
  | term => exact h
  | negative => exact .chain .negative h
  | product | factor | primary => exact .chain .product (h.product (by decide))
  | _ => simp [Symbol.strength] at hstrength

theorem Derives.expression (h : Derives registry symbol tokens x nesting)
    (hne : symbol ≠ .argument) : Derives registry .expression tokens x nesting := by
  cases symbol with
  | expression => exact h
  | argument => exact (hne rfl).elim
  | _ => exact .chain .term (h.term (by decide))

end Lift

/-- A right operand that does not end in a negation is a factor. -/
theorem Derives.factor_of_admits {right : Symbol} {tokens : List Token} {x : Float} {nesting : Nat}
    {operator : Operator} (h : Derives registry right tokens x nesting)
    (hadmits : operator.rightThreshold.admits right.strength = true)
    (hoperator : 20 ≤ operator.strength) (hne : right ≠ .negative) :
    Derives registry .factor tokens x nesting := by
  have hstrength : 30 ≤ right.strength := by
    revert hadmits hoperator hne
    cases operator <;> cases right <;> decide
  have hfollow : 20 ≤ right.follow := by
    revert hstrength hne
    cases right <;> decide
  exact h.factor hstrength hfollow

/-- An operator between what it may follow and what its threshold admits stands
in the middle of a rule. -/
theorem Infix.of_operands {left right : Symbol} {operator : Operator} {front back : List Token}
    {x y : Float} {leftNesting rightNesting : Nat}
    (hleft : Derives registry left front x leftNesting) (hne : left ≠ .argument)
    (hfollow : operator.strength ≤ left.follow)
    (hright : Derives registry right back y rightNesting)
    (hadmits : operator.rightThreshold.admits right.strength = true) :
    ∃ symbol inner outer, Infix symbol inner operator outer ∧
      Derives registry inner front x leftNesting ∧ Derives registry outer back y rightNesting ∧
      ∀ stream : TokenStream, stream.LetsFollow right.follow →
        operator.rightThreshold.Stops stream → stream.LetsFollow symbol.follow := by
  have hterm : operator.strength = 10 → 20 ≤ right.strength := by
    revert hadmits
    cases operator <;> cases right <;> decide
  have hkeep : right = .negative → ∀ stream : TokenStream, stream.LetsFollow right.follow →
      operator.rightThreshold.Stops stream → stream.LetsFollow 10 := by
    rintro rfl stream hfollows _
    exact hfollows
  have hfactor := hright.factor_of_admits hadmits
  cases operator with
  | add =>
      exact ⟨_, _, _, .sum, hleft.expression hne, hright.term (hterm rfl),
        fun _ _ hstops => letsFollow_of_stops hstops (by decide)⟩
  | subtract =>
      exact ⟨_, _, _, .difference, hleft.expression hne, hright.term (hterm rfl),
        fun _ _ hstops => letsFollow_of_stops hstops (by decide)⟩
  | multiply =>
      by_cases hnegative : right = .negative
      · exact ⟨_, _, _, .productOfNegative, hleft.product hfollow, hnegative ▸ hright,
          hkeep hnegative⟩
      · exact ⟨_, _, _, .product, hleft.product hfollow, hfactor (by decide) hnegative,
          fun _ _ hstops => letsFollow_of_stops hstops (by decide)⟩
  | divide =>
      by_cases hnegative : right = .negative
      · exact ⟨_, _, _, .quotientByNegative, hleft.product hfollow, hnegative ▸ hright,
          hkeep hnegative⟩
      · exact ⟨_, _, _, .quotient, hleft.product hfollow, hfactor (by decide) hnegative,
          fun _ _ hstops => letsFollow_of_stops hstops (by decide)⟩
  | power =>
      by_cases hnegative : right = .negative
      · exact ⟨_, _, _, .powerOfNegative, hleft.primary hfollow, hnegative ▸ hright,
          hkeep hnegative⟩
      · exact ⟨_, _, _, .power, hleft.primary hfollow, hfactor (by decide) hnegative,
          fun _ _ hstops => letsFollow_of_stops hstops (by decide)⟩

/-! ## Soundness -/

/-- What the tokens of an expression have been found to be, when the given state
of the stream follows.  An argument is found at thresholds that admit nothing. -/
def Found (registry : Registry) (threshold : Threshold) (bound : Nat) (tokens : List Token)
    (after : TokenStream) : Value → Prop
  | .number x =>
      ∃ symbol nesting, Derives registry symbol tokens x nesting ∧ nesting < bound ∧
        symbol ≠ .argument ∧ after.LetsFollow symbol.follow ∧
        (threshold.admits symbol.strength = true ∨
          (30 ≤ symbol.strength ∧ Derives registry .argument tokens x nesting))
  | .pending name =>
      (registry.function? name).isSome →
        ∃ nesting, Head registry tokens name nesting ∧ nesting < bound

/-- Whatever an operand evaluates to is found in the tokens that it takes. -/
def Sound (registry : Registry) (bound : Nat) (operand : Threshold → Evaluation Value) : Prop :=
  ∀ threshold stream value after, (operand threshold stream).outcome = .ok (value, after) →
    ∃ tokens, Takes stream tokens after ∧ Found registry threshold bound tokens after value ∧
      threshold.Stops after

theorem Found.exists_admits {threshold : Threshold} {bound : Nat} {tokens : List Token}
    {after : TokenStream} {x : Float}
    (h : Found registry threshold bound tokens after (.number x))
    (hthirty : threshold.admits 30 = true) :
    ∃ symbol nesting, Derives registry symbol tokens x nesting ∧ nesting < bound ∧
      symbol ≠ .argument ∧ after.LetsFollow symbol.follow ∧
      threshold.admits symbol.strength = true := by
  obtain ⟨symbol, nesting, hderives, hlt, hne, hfollow, hadmits⟩ := h
  refine ⟨symbol, nesting, hderives, hlt, hne, hfollow, ?_⟩
  rcases hadmits with hadmits | ⟨hstrength, _⟩
  · exact hadmits
  · exact Threshold.admits_of_le hstrength hthirty

section Step

variable {bound : Nat} {operand : Threshold → Evaluation Value}

theorem found_openWith (hoperand : Sound registry bound operand) (threshold : Threshold)
    {rule : Opening} {token : Token} {stream after : TokenStream} {value : Value}
    (hopens : token.kind.role.opens = some rule)
    (h : (openWith registry operand rule token.kind.role.power token stream).outcome =
      .ok (value, after)) :
    ∃ tokens, Takes stream tokens after ∧
      Found registry threshold (bound + 1) (token :: tokens) after value := by
  have hkind := Kind.of_opens hopens
  have hsteps := openWith_eq_ok h
  cases rule with
  | literal =>
      obtain ⟨x, hvalue, rfl, rfl⟩ := hsteps
      exact ⟨[], .nothing _, .primary, 0, .number (.inl rfl) hkind hvalue, by omega, by decide,
        letsFollow_fifty _, .inr ⟨by decide, .number (.inr rfl) hkind hvalue⟩⟩
  | name =>
      obtain ⟨rfl, rfl⟩ := hsteps
      refine ⟨[], .nothing _, ?_⟩
      unfold resolve
      cases hconstant : registry.constant? token.text with
      | some x =>
          exact ⟨.primary, 0, .constant (.inl rfl) hkind hconstant, by omega, by decide,
            letsFollow_fifty _, .inr ⟨by decide, .constant (.inr rfl) hkind hconstant⟩⟩
      | none => exact fun hfunction => ⟨0, .name hkind hconstant hfunction, by omega⟩
  | negate =>
      obtain ⟨x, hoperandOk, rfl⟩ := hsteps
      rw [hkind.2] at hoperandOk
      obtain ⟨tokens, htakes, hfound, hstops⟩ := hoperand _ _ _ _ hoperandOk
      obtain ⟨symbol, nesting, hderives, hlt, hne, hfollow, hadmits⟩ := hfound.exists_admits rfl
      have hterm : 20 ≤ symbol.strength := by
        revert hadmits
        cases symbol <;> decide
      have hnegation : ∀ symbol, symbol = .negative ∨ symbol = .argument →
          Derives registry symbol (token :: tokens) (-x) (1 + nesting) :=
        fun _ hsymbol => .negation hsymbol hkind.1 (hderives.term hterm)
      exact ⟨tokens, htakes, .negative, 1 + nesting, hnegation _ (.inl rfl), by omega, by decide,
        letsFollow_of_stops hstops (by decide), .inr ⟨by decide, hnegation _ (.inr rfl)⟩⟩
  | group =>
      obtain ⟨middle, hinner, hclose⟩ := hsteps
      obtain ⟨closing, hclosing, hclosingTakes⟩ := takes_of_closeParen hclose
      obtain ⟨tokens, htakes, hfound, _⟩ := hoperand _ _ _ _ hinner
      refine ⟨tokens ++ [closing], htakes.trans hclosingTakes, ?_⟩
      cases value with
      | number x =>
          obtain ⟨symbol, nesting, hderives, hlt, hne, _⟩ := hfound
          have hgroup : ∀ symbol, symbol = .primary ∨ symbol = .argument →
              Derives registry symbol (token :: (tokens ++ [closing])) x (1 + nesting) :=
            fun _ hsymbol => .group hsymbol hkind hclosing (hderives.expression hne)
          exact ⟨.primary, 1 + nesting, hgroup _ (.inl rfl), by omega, by decide,
            letsFollow_fifty _, .inr ⟨by decide, hgroup _ (.inr rfl)⟩⟩
      | pending name =>
          intro hfunction
          obtain ⟨nesting, hhead, hlt⟩ := hfound hfunction
          exact ⟨1 + nesting, .group hkind hclosing hhead, by omega⟩

theorem found_joinWith (hoperand : Sound registry bound operand) {rule : Joining}
    {threshold : Threshold} {front : List Token} {before stream after : TokenStream}
    {left value : Value} (hfound : Found registry threshold (bound + 1) front before left)
    (hjoins : before.lookahead.kind.role.joins = some rule)
    (hadmits : threshold.admits before.lookahead.kind.role.power = true)
    (h : (joinWith registry operand rule before.lookahead.kind.role.power before.lookahead left
      stream).outcome = .ok (value, after)) :
    ∃ tokens, Takes stream tokens after ∧
      Found registry threshold (bound + 1) (front ++ before.lookahead :: tokens) after value := by
  have hkind := Kind.of_joins hjoins
  have hsteps := joinWith_eq_ok h
  cases rule with
  | binary operator =>
      obtain ⟨x, y, rfl, hright, rfl⟩ := hsteps
      rw [hkind.2] at hright
      obtain ⟨left, leftNesting, hleft, hleftLt, hne, hfollow, _⟩ := hfound
      obtain ⟨tokens, htakes, hrightFound, hstops⟩ := hoperand _ _ _ _ hright
      have hthirty : operator.rightThreshold.admits 30 = true := by cases operator <;> rfl
      obtain ⟨right, rightNesting, hright, hrightLt, _, hrightFollow, hrightAdmits⟩ :=
        hrightFound.exists_admits hthirty
      obtain ⟨symbol, inner, outer, hrule, hinner, houter, hlets⟩ :=
        Infix.of_operands hleft hne (hkind.2 ▸ hfollow _ hjoins) hright hrightAdmits
      refine ⟨tokens, htakes, symbol, max leftNesting (1 + rightNesting),
        .binary hrule hkind.1 hinner houter, by omega, hrule.ne_argument,
        hlets _ hrightFollow hstops, .inl ?_⟩
      rw [hrule.strength.1, ← hkind.2]
      exact hadmits
  | call =>
      obtain ⟨name, function, x, middle, rfl, hargument, hclose, hfunction, rfl⟩ := hsteps
      rw [hkind.2] at hargument hadmits
      obtain ⟨closing, hclosing, hclosingTakes⟩ := takes_of_closeParen hclose
      obtain ⟨tokens, htakes, hargumentFound, _⟩ := hoperand _ _ _ _ hargument
      obtain ⟨headNesting, hhead, hheadLt⟩ := hfound (by simp [hfunction])
      obtain ⟨symbol, nesting, _, hlt, _, _, hcase⟩ := hargumentFound
      have hderives : Derives registry .argument tokens x nesting := by
        rcases hcase with hfifty | ⟨_, hderives⟩
        · cases symbol <;> cases hfifty
        · exact hderives
      exact ⟨tokens ++ [closing], htakes.trans hclosingTakes, .primary,
        max headNesting (1 + nesting), .call hhead hfunction hkind.1 hclosing hderives, by omega,
        by decide, letsFollow_fifty _, .inl hadmits⟩

theorem found_climb (hconsumes : ∀ threshold, Consumes (operand threshold))
    (hoperand : Sound registry bound operand) {threshold : Threshold} {front : List Token}
    {stream after : TokenStream} {left value : Value}
    (hfound : Found registry threshold (bound + 1) front stream left)
    (h : (climb registry operand threshold left stream).outcome = .ok (value, after)) :
    ∃ tokens, Takes stream tokens after ∧
      Found registry threshold (bound + 1) (front ++ tokens) after value ∧
      threshold.Stops after := by
  -- on the tokens that are left: a turn takes some, and adds one rule to what has been found
  induction hn : stream.left using Nat.strongRecOn generalizing front stream left with
  | ind n ih =>
      have hstopped : threshold.Stops stream → ∃ tokens, Takes stream tokens after ∧
          Found registry threshold (bound + 1) (front ++ tokens) after value ∧
          threshold.Stops after := by
        intro hstops
        rw [outcome_climb_of_stops registry hconsumes left hstops] at h
        cases h
        exact ⟨[], .nothing _, by simpa using hfound, hstops⟩
      cases hjoins : stream.lookahead.kind.role.joins with
      | none => exact hstopped (threshold.stops_of_joins hjoins)
      | some rule =>
          cases hadmits : threshold.admits stream.lookahead.kind.role.power with
          | false => exact hstopped fun _ _ => hadmits
          | true =>
              rw [outcome_climb_of_admits registry hconsumes left hjoins rfl hadmits] at h
              obtain ⟨⟨token, middle⟩, hadvance, hrest⟩ := bind_eq_ok.1 h
              obtain ⟨⟨joined, last⟩, hjoin, hclimb⟩ := bind_eq_ok.1 hrest
              have hlt := left_lt_of_turn registry hconsumes hjoins hadvance hjoin
              have htakes := takes_of_advance (Kind.ne_endOfInput_of_joins hjoins) hadvance
              cases eq_lookahead_of_advance hadvance
              obtain ⟨tokens, hmore, hjoined⟩ := found_joinWith hoperand hfound hjoins hadmits hjoin
              obtain ⟨later, hlater, hlast, hstops⟩ := ih last.left (hn ▸ hlt) hjoined hclimb rfl
              exact ⟨stream.lookahead :: (tokens ++ later), htakes.trans (hmore.trans hlater),
                by simpa using hlast, hstops⟩

theorem sound_expressionWith (hconsumes : ∀ threshold, Consumes (operand threshold))
    (hoperand : Sound registry bound operand) :
    Sound registry (bound + 1) (expressionWith registry operand) := by
  intro threshold stream value after h
  rw [outcome_expressionWith] at h
  obtain ⟨⟨token, middle⟩, hadvance, hrest⟩ := bind_eq_ok.1 h
  cases eq_lookahead_of_advance hadvance
  cases hopens : stream.lookahead.kind.role.opens with
  | none => simp [hopens] at hrest
  | some rule =>
      simp only [hopens] at hrest
      obtain ⟨⟨first, second⟩, hopen, hclimb⟩ := bind_eq_ok.1 hrest
      have htakes := takes_of_advance (Kind.ne_endOfInput_of_opens hopens) hadvance
      obtain ⟨tokens, hmore, hfound⟩ := found_openWith hoperand threshold hopens hopen
      obtain ⟨later, hlater, hlast, hstops⟩ := found_climb hconsumes hoperand hfound hclimb
      exact ⟨stream.lookahead :: (tokens ++ later), htakes.trans (hmore.trans hlater),
        by simpa using hlast, hstops⟩

end Step

theorem sound_expression (registry : Registry) (limit levels : Nat) :
    Sound registry levels (expression registry limit levels) := by
  induction levels with
  | zero =>
      intro threshold stream value after h
      cases h
  | succ levels ih =>
      intro threshold stream value after h
      exact sound_expressionWith (consumes_expression registry limit levels) ih _ _ _ _ h

/-! ## The language of formulas -/

theorem exists_derives_of_outcome_whole {limit : Nat} {lexer : Lexer} {stream last : TokenStream}
    {x : Float} (hread : (ofLexer lexer).outcome = .ok stream)
    (h : (whole registry limit stream).outcome = .ok (x, last)) :
    ∃ tokens nesting length, lexer.remainder = ⟨tokens, .clean length⟩ ∧
      Derives registry .expression tokens x nesting ∧ 1 + nesting ≤ limit := by
  rw [outcome_whole] at h
  obtain ⟨⟨value, after⟩, hexpression, hrest⟩ := bind_eq_ok.1 h
  by_cases hend : after.lookahead.kind = .endOfInput
  · rw [if_pos hend] at hrest
    obtain ⟨y, hnumber, heq⟩ := map_eq_ok.1 hrest
    cases heq
    obtain rfl := Value.toNumber_eq_ok hnumber
    obtain ⟨tokens, htakes, hfound, _⟩ := sound_expression registry limit limit _ _ _ _ hexpression
    obtain ⟨symbol, nesting, hderives, hlt, hne, _⟩ := hfound
    obtain ⟨length, hremainder⟩ := htakes.remainder_eq hread hend
    exact ⟨tokens, nesting, length, hremainder, hderives.expression hne, by omega⟩
  · rw [if_neg hend] at hrest
    cases hrest

theorem outcome_whole_of_derives {limit : Nat} {stream last : TokenStream} {tokens : List Token}
    {x : Float} {nesting : Nat} (htakes : Takes stream tokens last)
    (hend : last.lookahead.kind = .endOfInput)
    (h : Derives registry .expression tokens x nesting) (hlimit : 1 + nesting ≤ limit) :
    (whole registry limit stream).outcome = .ok (x, last) := by
  have hfollow : ∀ power, last.LetsFollow power :=
    fun power => letsFollow_of_joins power (by rw [hend]; rfl)
  have hcompletes : Completes registry limit .expression tokens (.number x) nesting := h.completes
  have hexpression := hcompletes.operand htakes (by omega : nesting < limit) (.inr rfl) (hfollow _)
    ((hfollow 0).stops .lowest rfl)
  rw [outcome_whole, hexpression, ok_bind, if_pos hend]
  rfl

/-- A formula has a value exactly if it is read as tokens that are derived from
the grammar with this value, and nested no deeper than the limit allows. -/
theorem evaluateWithin_eq_ok_iff (registry : Registry) (limit : Nat) (input : String) (x : Float) :
    evaluateWithin registry limit input = .ok x ↔
      ∃ tokens nesting, tokenize input = .ok tokens ∧
        Derives registry .expression tokens x nesting ∧ 1 + nesting ≤ limit := by
  rw [evaluateWithin_eq]
  constructor
  · intro h
    obtain ⟨stream, hread, hrest⟩ := bind_eq_ok.1 h
    obtain ⟨⟨y, last⟩, hwhole, heq⟩ := bind_eq_ok.1 hrest
    cases heq
    obtain ⟨tokens, nesting, length, hremainder, hderives, hlimit⟩ :=
      exists_derives_of_outcome_whole hread hwhole
    have htokens : tokenize input = .ok tokens := by
      show (Lexer.ofText input).remainder.toExcept = .ok tokens
      rw [hremainder]
      rfl
    exact ⟨tokens, nesting, htokens, hderives, hlimit⟩
  · rintro ⟨tokens, nesting, htokens, hderives, hlimit⟩
    obtain ⟨stream, last, hread, htakes, hend⟩ := takes_of_tokenize htokens
    rw [hread, ok_bind, outcome_whole_of_derives htakes hend hderives hlimit, ok_bind]

end Formula
