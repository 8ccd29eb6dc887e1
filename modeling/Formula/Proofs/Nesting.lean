import Formula.Proofs.Climbing

/-!
# The limit on nested expressions

A run with fewer levels goes like a run with more of them up to the first
expression for which they are too few.  Each level takes a token, so one more
level than there are tokens is always enough.
-/

namespace Formula

/-- The outcome is not that expressions are nested too deeply. -/
def Settled {α : Type} (outcome : Except Error α) : Prop :=
  ∀ limit, outcome ≠ .error (.nestedTooDeeply limit)

section Settled

variable {α β : Type}

theorem settled_ok (value : α) : Settled (.ok value) := by
  intro limit h
  cases h

theorem settled_bind {first : Except Error α} {next : α → Except Error β} (hfirst : Settled first)
    (hnext : ∀ value, first = .ok value → Settled (next value)) : Settled (first >>= next) := by
  cases first with
  | error error =>
      intro limit h
      cases h
      exact hfirst limit rfl
  | ok value => exact hnext value rfl

theorem settled_map {first : Except Error α} (f : α → β) (hfirst : Settled first) :
    Settled (first.map f) := by
  cases first with
  | error error =>
      intro limit h
      cases h
      exact hfirst limit rfl
  | ok value => exact settled_ok (f value)

end Settled

theorem Value.settled_toNumber (value : Value) : Settled value.toNumber := by
  cases value with
  | number x => exact settled_ok x
  | pending name =>
      intro limit h
      cases h

theorem Token.settled_value (token : Token) : Settled token.value := by
  unfold Token.value
  cases Numeric.Literal.parse token.text with
  | error cause =>
      intro limit h
      cases h
  | ok x => exact settled_ok x

theorem TokenStream.settled_ofLexer (lexer : Lexer) : Settled (ofLexer lexer).outcome := by
  intro limit h
  obtain ⟨_, _, _, herror⟩ := outcome_ofLexer_eq_error h
  cases herror

/-! ## Fewer levels -/

namespace Evaluation

variable {α β : Type}

/-- One computation has the outcome of another one, unless it comes to the limit. -/
def CutOff (limit : Nat) (shallow deep : Evaluation α) : Prop :=
  ∀ stream, (shallow stream).outcome = .error (.nestedTooDeeply limit) ∨
    (shallow stream).outcome = (deep stream).outcome

section CutOff

variable {limit : Nat}

theorem CutOff.refl (body : Evaluation α) : CutOff limit body body :=
  fun _ => .inr rfl

theorem CutOff.bind {shallow deep : Evaluation α} {next later : α → Evaluation β}
    (hfirst : CutOff limit shallow deep)
    (hnext : ∀ value, CutOff limit (next value) (later value)) :
    CutOff limit (shallow >>= next) (deep >>= later) := by
  intro stream
  rw [outcome_bind, outcome_bind]
  rcases hfirst stream with hlimit | hsame
  · exact .inl (by rw [hlimit, error_bind])
  · rw [hsame]
    cases (deep stream).outcome with
    | error error => exact .inr rfl
    | ok result => exact hnext result.1 result.2

theorem CutOff.bind_right (body : Evaluation α) {next later : α → Evaluation β}
    (hnext : ∀ value, CutOff limit (next value) (later value)) :
    CutOff limit (body >>= next) (body >>= later) :=
  (CutOff.refl body).bind hnext

theorem CutOff.bind_left {shallow deep : Evaluation α} (hfirst : CutOff limit shallow deep)
    (next : α → Evaluation β) : CutOff limit (shallow >>= next) (deep >>= next) :=
  hfirst.bind fun _ => .refl _

variable (registry : Registry) {shallow deep : Threshold → Evaluation Value}

theorem cutOff_openWith (h : ∀ threshold, CutOff limit (shallow threshold) (deep threshold))
    (rule : Opening) (power : Nat) (token : Token) :
    CutOff limit (openWith registry shallow rule power token)
      (openWith registry deep rule power token) := by
  refine .bind_right _ fun _ => ?_
  cases rule with
  | literal => exact .refl _
  | name => exact .refl _
  | negate => exact (h _).bind_left _
  | group => exact (h _).bind_left _

theorem cutOff_joinWith (h : ∀ threshold, CutOff limit (shallow threshold) (deep threshold))
    (rule : Joining) (power : Nat) (token : Token) (left : Value) :
    CutOff limit (joinWith registry shallow rule power token left)
      (joinWith registry deep rule power token left) := by
  refine .bind_right _ fun _ => ?_
  cases rule with
  | binary operator => exact .bind_right _ fun _ => (h _).bind_left _
  | call =>
      cases left with
      | number x => exact .refl _
      | pending name => exact (h _).bind_left _

theorem cutOff_extend (h : ∀ threshold, CutOff limit (shallow threshold) (deep threshold))
    (threshold : Threshold) (turns : Nat) (left : Value) :
    CutOff limit (extend registry shallow threshold turns left)
      (extend registry deep threshold turns left) := by
  induction turns generalizing left with
  | zero => exact .refl _
  | succ turns ih =>
      refine .bind_right _ fun next => ?_
      split
      · split
        · refine .bind_right _ fun _ => ?_
          exact (cutOff_joinWith registry h _ _ _ _).bind fun joined => ih joined
        · exact .refl _
      · exact .refl _

theorem cutOff_expressionWith (h : ∀ threshold, CutOff limit (shallow threshold) (deep threshold))
    (threshold : Threshold) :
    CutOff limit (expressionWith registry shallow threshold)
      (expressionWith registry deep threshold) := by
  refine .bind_right _ fun token => ?_
  split
  · refine (cutOff_openWith registry h _ _ _).bind fun first => ?_
    exact .bind_right _ fun _ => cutOff_extend registry h _ _ first
  · exact .refl _

theorem cutOff_expression (other : Nat) {levels more : Nat} (hle : levels ≤ more)
    (threshold : Threshold) :
    CutOff limit (expression registry limit levels threshold)
      (expression registry other more threshold) := by
  induction levels generalizing more threshold with
  | zero => exact fun _ => .inl rfl
  | succ levels ih =>
      cases more with
      | zero => omega
      | succ more =>
          exact cutOff_expressionWith registry (fun inner => ih (by omega) inner) threshold

theorem cutOff_whole {other : Nat} (hle : limit ≤ other) :
    CutOff limit (whole registry limit) (whole registry other) :=
  (cutOff_expression registry other hle .lowest).bind_left _

end CutOff

/-! ## Enough levels -/

/-- A computation never comes to a limit where fewer tokens are left. -/
def Fits (bound : Nat) (body : Evaluation α) : Prop :=
  ∀ stream, stream.left < bound → Settled (body stream).outcome

section Fits

variable {bound : Nat}

theorem Fits.bind {first : Evaluation α} {next : α → Evaluation β} (hconsumes : Consumes first)
    (hfirst : Fits bound first) (hnext : ∀ value, Fits bound (next value)) :
    Fits bound (first >>= next) := by
  intro stream hleft
  rw [outcome_bind]
  refine settled_bind (hfirst stream hleft) ?_
  rintro ⟨value, after⟩ hvalue
  have hle := hconsumes.left_le hvalue
  exact hnext value after (by omega)

theorem fits_pure (value : α) : Fits bound (pure value) :=
  fun stream _ => settled_ok (value, stream)

theorem fits_emit (event : Event) : Fits bound (emit event) :=
  fun stream _ => settled_ok ((), stream)

theorem fits_lift {outcome : Except Error α} (h : Settled outcome) :
    Fits bound (StateT.lift (Run.ofExcept outcome)) := by
  intro stream _
  rw [outcome_lift]
  exact settled_map _ h

theorem settled_advance (stream : TokenStream) : Settled (advance stream).outcome := by
  rw [outcome_advance]
  by_cases hkind : stream.lookahead.kind = .endOfInput
  · rw [if_pos hkind]
    exact settled_ok _
  · rw [if_neg hkind]
    exact settled_map _ (TokenStream.settled_ofLexer stream.lexer)

theorem fits_closeParen : Fits bound closeParen := by
  intro stream _
  rw [outcome_closeParen]
  by_cases hkind : stream.lookahead.kind = .closeParen
  · rw [if_pos hkind]
    exact settled_map _ (TokenStream.settled_ofLexer stream.lexer)
  · rw [if_neg hkind]
    intro limit h
    cases h

theorem fits_applyFunction (function : UnaryFunction) (x : Float) :
    Fits bound (applyFunction function x) := by
  intro stream _
  rw [outcome_applyFunction]
  exact settled_ok _

variable (registry : Registry) {operand : Threshold → Evaluation Value}

theorem fits_openWith (hconsumes : ∀ threshold, Consumes (operand threshold))
    (hfits : ∀ threshold, Fits bound (operand threshold)) (rule : Opening) (power : Nat)
    (token : Token) : Fits bound (openWith registry operand rule power token) := by
  refine .bind (consumes_emit _) (fits_emit _) fun _ => ?_
  cases rule with
  | literal =>
      exact .bind (consumes_lift _) (fits_lift token.settled_value) fun _ => fits_pure _
  | name => exact fits_pure _
  | negate =>
      refine .bind (hconsumes _) (hfits _) fun value => ?_
      exact .bind (consumes_lift _) (fits_lift value.settled_toNumber) fun _ => fits_pure _
  | group =>
      refine .bind (hconsumes _) (hfits _) fun _ => ?_
      exact .bind consumes_closeParen fits_closeParen fun _ => fits_pure _

theorem fits_joinWith (hconsumes : ∀ threshold, Consumes (operand threshold))
    (hfits : ∀ threshold, Fits bound (operand threshold)) (rule : Joining) (power : Nat)
    (token : Token) (left : Value) :
    Fits bound (joinWith registry operand rule power token left) := by
  refine .bind (consumes_emit _) (fits_emit _) fun _ => ?_
  cases rule with
  | binary operator =>
      refine .bind (consumes_lift _) (fits_lift left.settled_toNumber) fun _ => ?_
      refine .bind (hconsumes _) (hfits _) fun right => ?_
      exact .bind (consumes_lift _) (fits_lift right.settled_toNumber) fun _ => fits_pure _
  | call =>
      cases left with
      | number x =>
          intro stream _ limit h
          cases h
      | pending name =>
          refine .bind (hconsumes _) (hfits _) fun argument => ?_
          refine .bind consumes_closeParen fits_closeParen fun _ => ?_
          cases registry.function? name with
          | none =>
              intro stream _ limit h
              cases h
          | some function =>
              refine .bind (consumes_lift _) (fits_lift argument.settled_toNumber) fun _ => ?_
              exact .bind (consumes_applyFunction _ _) (fits_applyFunction _ _) fun _ => fits_pure _

/-- Each turn of the loop takes a token, so it leaves one level more to operands. -/
theorem fits_extend (hconsumes : ∀ threshold, Consumes (operand threshold))
    (hfits : ∀ threshold, Fits bound (operand threshold)) (threshold : Threshold)
    (turns : Nat) (left : Value) :
    Fits (bound + 1) (extend registry operand threshold turns left) := by
  induction turns generalizing left with
  | zero => exact fits_pure left
  | succ turns ih =>
      intro stream hleft
      rw [extend_succ]
      cases hjoins : stream.lookahead.kind.role.joins with
      | none => exact settled_ok _
      | some rule =>
          dsimp only
          split
          · rw [Run.outcome_bind]
            refine settled_bind (settled_advance stream) ?_
            rintro ⟨taken, middle⟩ hadvance
            have hkind := Kind.ne_endOfInput_of_joins hjoins
            have hmiddle := (takes_of_advance hkind hadvance).left_add_length_le
            rw [List.length_singleton] at hmiddle
            rw [Run.outcome_bind]
            refine settled_bind
              (fits_joinWith registry hconsumes hfits _ _ _ _ middle (by omega)) ?_
            rintro ⟨joined, after⟩ hjoin
            have hafter := left_lt_of_turn registry hconsumes hjoins hadvance hjoin
            exact ih joined after (by omega)
          · exact settled_ok _

theorem fits_expressionWith (hconsumes : ∀ threshold, Consumes (operand threshold))
    (hfits : ∀ threshold, Fits bound (operand threshold)) (threshold : Threshold) :
    Fits (bound + 1) (expressionWith registry operand threshold) := by
  intro stream hleft
  rw [outcome_expressionWith]
  refine settled_bind (settled_advance stream) ?_
  rintro ⟨token, middle⟩ hadvance
  cases eq_lookahead_of_advance hadvance
  cases hopens : stream.lookahead.kind.role.opens with
  | none =>
      dsimp only
      intro limit h
      cases h
  | some rule =>
      have hkind := Kind.ne_endOfInput_of_opens hopens
      have hmiddle := (takes_of_advance hkind hadvance).left_add_length_le
      rw [List.length_singleton] at hmiddle
      dsimp only
      refine settled_bind (fits_openWith registry hconsumes hfits _ _ _ middle (by omega)) ?_
      rintro ⟨first, after⟩ hfirst
      have hafter := (consumes_openWith registry hconsumes _ _ _).left_le hfirst
      exact fits_extend registry hconsumes hfits _ _ first after (by omega)

theorem fits_expression (limit levels : Nat) (threshold : Threshold) :
    Fits levels (expression registry limit levels threshold) := by
  induction levels generalizing threshold with
  | zero =>
      intro stream hleft
      omega
  | succ levels ih =>
      exact fits_expressionWith registry (consumes_expression registry limit levels) ih threshold

theorem settled_whole (limit : Nat) {stream : TokenStream} (hleft : stream.left < limit) :
    Settled (whole registry limit stream).outcome := by
  rw [outcome_whole]
  refine settled_bind (fits_expression registry limit limit .lowest stream hleft) ?_
  intro result _
  by_cases hend : result.2.lookahead.kind = .endOfInput
  · rw [if_pos hend]
    exact settled_map _ result.1.settled_toNumber
  · rw [if_neg hend]
    intro limit h
    cases h

end Fits

end Evaluation

/-! ## Whole formulas -/

theorem evaluateWithin_cutOff (registry : Registry) (input : String) {limit other : Nat}
    (hle : limit ≤ other) :
    evaluateWithin registry limit input = .error (.nestedTooDeeply limit) ∨
      evaluateWithin registry limit input = evaluateWithin registry other input := by
  rw [evaluateWithin_eq, evaluateWithin_eq]
  cases (TokenStream.ofText input).outcome with
  | error error => exact .inr rfl
  | ok stream =>
      simp only [ok_bind]
      rcases Evaluation.cutOff_whole registry hle stream with hlimit | hsame
      · exact .inl (by rw [hlimit, error_bind])
      · exact .inr (by rw [hsame])

theorem settled_evaluateWithin (registry : Registry) {input : String} {limit : Nat}
    (hlimit : (Scan.ofText input).tokens.length < limit) :
    Settled (evaluateWithin registry limit input) := by
  rw [evaluateWithin_eq]
  refine settled_bind (TokenStream.settled_ofLexer (.ofText input)) ?_
  intro stream hread
  have hleft : stream.left ≤ (Scan.ofText input).tokens.length :=
    TokenStream.left_le_of_ofLexer hread
  have hwhole := Evaluation.settled_whole registry limit (by omega : stream.left < limit)
  exact settled_bind hwhole fun result _ => settled_ok result.1

/-- Outcomes that differ only by the limits that they come to are cut off at one
place. -/
theorem exists_cut {α : Type} {outcome : Nat → Except Error α} {bound : Nat}
    (hcut : ∀ {limit other}, limit ≤ other →
      outcome limit = .error (.nestedTooDeeply limit) ∨ outcome limit = outcome other)
    (hbound : Settled (outcome bound)) :
    ∃ enough ≤ bound, Settled (outcome enough) ∧
      ∀ limit < enough, outcome limit = .error (.nestedTooDeeply limit) := by
  induction bound with
  | zero => exact ⟨0, by omega, hbound, by omega⟩
  | succ bound ih =>
      by_cases hsettled : Settled (outcome bound)
      · obtain ⟨enough, hle, hrest⟩ := ih hsettled
        exact ⟨enough, by omega, hrest⟩
      · refine ⟨bound + 1, by omega, hbound, ?_⟩
        intro limit hlt
        rcases hcut (by omega : limit ≤ bound) with hlimit | hsame
        · exact hlimit
        · rcases hcut (by omega : limit ≤ bound + 1) with hlimit | hlast
          · exact hlimit
          · exact (hsettled (hsame ▸ hlast ▸ hbound)).elim

/-- The limit only matters up to some number of levels, of which there is one more
than tokens at most: with fewer levels a formula is nested too deeply, and with as
many or more of them its outcome is always the same. -/
theorem evaluateWithin_cut_sharply (registry : Registry) (input : String) :
    ∃ enough ≤ (Scan.ofText input).tokens.length + 1, ∃ result, Settled result ∧
      (∀ limit, enough ≤ limit → evaluateWithin registry limit input = result) ∧
      ∀ limit < enough,
        evaluateWithin registry limit input = .error (.nestedTooDeeply limit) := by
  obtain ⟨enough, hle, hsettled, hfewer⟩ :=
    exists_cut (fun hle => evaluateWithin_cutOff registry input hle)
      (settled_evaluateWithin registry (Nat.lt_succ_self (Scan.ofText input).tokens.length))
  refine ⟨enough, hle, evaluateWithin registry enough input, hsettled, ?_, hfewer⟩
  intro limit hlimit
  rcases evaluateWithin_cutOff registry input hlimit with hcut | hsame
  · exact (hsettled enough hcut).elim
  · exact hsame.symm

end Formula
