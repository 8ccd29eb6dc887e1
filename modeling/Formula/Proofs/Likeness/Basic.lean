import Formula.Proofs.Errors.Reported
import Formula.Proofs.Reading
import Mathlib.Data.List.Forall2

/-!
# Evaluations that go alike

Two evaluations, with a registry each, go alike as long as what they read is
alike: tokens that play the same part, with names that mean something alike.
Numbers may be alike in any way that the operations keep.  Then both come to
values that are alike, or to errors that are.

The second text has to be like the first one only as far as the first evaluation
reads.  What stands behind is of no account, be it a token or not.
-/

namespace Formula

open TokenStream

/-- Two outcomes are values with the first relation or errors with the second. -/
inductive Matched {α β : Type} (values : α → β → Prop) (errors : Error → Error → Prop) :
    Except Error α → Except Error β → Prop
  | ok {x : α} {y : β} (h : values x y) : Matched values errors (.ok x) (.ok y)
  | error {first second : Error} (h : errors first second) :
      Matched values errors (.error first) (.error second)

theorem Matched.exists_ok {α β : Type} {values : α → β → Prop} {errors : Error → Error → Prop}
    {x : α} {outcome : Except Error β} (h : Matched values errors (.ok x) outcome) :
    ∃ y, outcome = .ok y ∧ values x y := by
  cases h with
  | ok h => exact ⟨_, rfl, h⟩

theorem Matched.exists_error {α β : Type} {values : α → β → Prop}
    {errors : Error → Error → Prop} {error : Error} {outcome : Except Error β}
    (h : Matched values errors (.error error) outcome) :
    ∃ other, outcome = .error other ∧ errors error other := by
  cases h with
  | error h => exact ⟨_, rfl, h⟩

theorem Matched.mono {α β : Type} {values results : α → β → Prop} {errors : Error → Error → Prop}
    {first : Except Error α} {second : Except Error β} (h : Matched values errors first second)
    (hresults : ∀ x y, values x y → results x y) : Matched results errors first second := by
  cases h with
  | ok h => exact .ok (hresults _ _ h)
  | error h => exact .error h

theorem Matched.map {α β γ δ : Type} {values : α → β → Prop} {results : γ → δ → Prop}
    {errors : Error → Error → Prop} {first : Except Error α} {second : Except Error β}
    (h : Matched values errors first second) {f : α → γ} {g : β → δ}
    (hresults : ∀ x y, values x y → results (f x) (g y)) :
    Matched results errors (first.map f) (second.map g) := by
  cases h with
  | ok h => exact .ok (hresults _ _ h)
  | error h => exact .error h

theorem Matched.bind {α β γ δ : Type} {values : α → β → Prop} {results : γ → δ → Prop}
    {errors : Error → Error → Prop} {first : Except Error α} {second : Except Error β}
    (h : Matched values errors first second) {f : α → Except Error γ} {g : β → Except Error δ}
    (hresults : ∀ x y, values x y → Matched results errors (f x) (g y)) :
    Matched results errors (first >>= f) (second >>= g) := by
  cases h with
  | ok h => exact hresults _ _ h
  | error h => exact .error h

/-- Errors of one kind, about tokens and numbers that are alike. -/
inductive Error.Like (token : Token → Token → Prop) (number : Float → Float → Prop) :
    Error → Error → Prop
  | unexpectedToken {first second : Token} (h : token first second) :
      Like token number (.unexpectedToken first.display first.position)
        (.unexpectedToken second.display second.position)
  | unclosedParenthesis {first second : Token} (h : token first second) :
      Like token number (.unclosedParenthesis first.position)
        (.unclosedParenthesis second.position)
  | notAFunction {first second : Token} {x y : Float} (h : token first second)
      (hnumber : number x y) :
      Like token number (.notAFunction (Numeric.Style.plain.render x) first.position)
        (.notAFunction (Numeric.Style.plain.render y) second.position)
  | unknownFunction (name : String) : Like token number (.unknownFunction name)
      (.unknownFunction name)
  | unresolvedName (name : String) : Like token number (.unresolvedName name)
      (.unresolvedName name)
  | nestedTooDeeply (limit : Nat) : Like token number (.nestedTooDeeply limit)
      (.nestedTooDeeply limit)

/-- What two evaluations have in common: which of their tokens and numbers are alike. -/
structure Likeness (first second : Registry) where
  token : Token → Token → Prop
  number : Float → Float → Prop
  /-- One number may stand for another one, but each other kind only for itself. -/
  kind : ∀ {t u : Token}, token t u → t.kind = u.kind ∨ (t.kind.IsNumber ∧ u.kind.IsNumber)
  value : ∀ {t u : Token}, token t u → t.kind.IsNumber →
    ∃ x y, t.value = .ok x ∧ u.value = .ok y ∧ number x y
  text : ∀ {t u : Token}, token t u → t.kind = .name → t.text = u.text
  constant : ∀ {t u : Token}, token t u → t.kind = .name →
    Option.Rel number (first.constant? t.text) (second.constant? t.text)
  /-- Only a name that is no constant is looked up among the functions. -/
  function : ∀ {t u : Token}, token t u → t.kind = .name → first.constant? t.text = none →
    Option.Rel (fun f g => ∀ x y, number x y → number (f.apply x) (g.apply y))
      (first.function? t.text) (second.function? t.text)
  negate : ∀ {x y : Float}, number x y → number (-x) (-y)
  apply : ∀ (operator : Operator) {x y x' y' : Float}, number x y → number x' y' →
    number (operator.apply x x') (operator.apply y y')

namespace Likeness

variable {first second : Registry} (likeness : Likeness first second)

/-- Values that are alike: numbers, or one name for functions that are alike. -/
inductive Values : Value → Value → Prop
  | number {x y : Float} (h : likeness.number x y) : Values (.number x) (.number y)
  | pending {name : String}
      (h : Option.Rel (fun f g => ∀ x y, likeness.number x y →
        likeness.number (f.apply x) (g.apply y)) (first.function? name) (second.function? name)) :
      Values (.pending name) (.pending name)

def Errors : Error → Error → Prop :=
  Error.Like likeness.token likeness.number

variable {likeness}

theorem role_eq {t u : Token} (h : likeness.token t u) : t.kind.role = u.kind.role := by
  rcases likeness.kind h with hkind | ⟨ht, hu⟩
  · rw [hkind]
  · rcases ht with ht | ht <;> rcases hu with hu | hu <;> rw [ht, hu] <;> rfl

theorem kind_iff {t u : Token} (h : likeness.token t u) {kind : Kind} (hkind : ¬ kind.IsNumber) :
    t.kind = kind ↔ u.kind = kind := by
  rcases likeness.kind h with hsame | ⟨ht, hu⟩
  · rw [hsame]
  · constructor
    · rintro rfl
      exact (hkind ht).elim
    · rintro rfl
      exact (hkind hu).elim

theorem resolve {t u : Token} (h : likeness.token t u) (hkind : t.kind = .name) :
    likeness.Values (Evaluation.resolve first t.text) (Evaluation.resolve second u.text) := by
  have hconstant := likeness.constant h hkind
  have hfunction := likeness.function h hkind
  rw [← likeness.text h hkind]
  unfold Evaluation.resolve
  cases hfirst : first.constant? t.text with
  | some x =>
      rw [hfirst] at hconstant
      cases hsecond : second.constant? t.text with
      | none => rw [hsecond] at hconstant; cases hconstant
      | some y =>
          rw [hsecond] at hconstant
          cases hconstant with
          | some hnumber => exact .number hnumber
  | none =>
      rw [hfirst] at hconstant
      cases hsecond : second.constant? t.text with
      | none => exact .pending (hfunction hfirst)
      | some y => rw [hsecond] at hconstant; cases hconstant

theorem Values.toNumber {left right : Value} (h : likeness.Values left right) :
    Matched likeness.number likeness.Errors left.toNumber right.toNumber := by
  cases h with
  | number h => exact .ok h
  | pending _ => exact .error (.unresolvedName _)

end Likeness

/-- The outcome is not a character with which no token starts. -/
def Unstrayed {α : Type} (outcome : Except Error α) : Prop :=
  ∀ text position, outcome ≠ .error (.strayCharacter text position)

/-- Reading fails only at such a character. -/
theorem exists_stray_of_ofLexer {lexer : Lexer} {error : Error}
    (h : (ofLexer lexer).outcome = .error error) :
    ∃ text position, error = .strayCharacter text position := by
  obtain ⟨character, position, _, rfl⟩ := outcome_ofLexer_eq_error h
  exact ⟨_, _, rfl⟩

namespace Evaluation

section Tracks

variable {α β γ δ : Type} {first second : Registry} (likeness : Likeness first second)

/-- If the second stream has in front what is like all that the first computation
reads, the second one goes like the first, and leaves what stands behind. -/
def Tracks (values : α → β → Prop) (leader : Evaluation α) (follower : Evaluation β) : Prop :=
  ∀ stream other used rest, likeness.token stream.lookahead other.lookahead →
    List.Forall₂ likeness.token (leader stream).reads used → other.unread = used ++ rest →
      Unstrayed (leader stream).outcome →
        Matched
          (fun result found => values result.1 found.1 ∧
            likeness.token result.2.lookahead found.2.lookahead ∧ found.2.unread = rest)
          likeness.Errors (leader stream).outcome (follower other).outcome

variable {likeness}

theorem forall₂_append_left {relation : Token → Token → Prop} {front back tokens : List Token}
    (h : List.Forall₂ relation (front ++ back) tokens) :
    ∃ used rest, tokens = used ++ rest ∧ List.Forall₂ relation front used ∧
      List.Forall₂ relation back rest := by
  have hfront := List.forall₂_take front.length h
  have hback := List.forall₂_drop front.length h
  rw [List.take_left] at hfront
  rw [List.drop_left] at hback
  exact ⟨_, _, (List.take_append_drop _ _).symm, hfront, hback⟩

theorem Tracks.bind {values : α → β → Prop} {results : γ → δ → Prop} {leader : Evaluation α}
    {follower : Evaluation β} {next : α → Evaluation γ} {later : β → Evaluation δ}
    (h : Tracks likeness values leader follower)
    (hnext : ∀ x y, values x y → Tracks likeness results (next x) (later y)) :
    Tracks likeness results (leader >>= next) (follower >>= later) := by
  intro stream other used rest hlookahead hreads hunread hstray
  rw [outcome_bind] at hstray ⊢
  rw [outcome_bind]
  cases houtcome : (leader stream).outcome with
  | error error =>
      rw [reads_bind_of_error houtcome] at hreads
      have hleader : Unstrayed (leader stream).outcome := by
        intro text position herror
        rw [herror] at hstray
        exact hstray text position rfl
      have hmatched := h stream other used rest hlookahead hreads hunread hleader
      rw [houtcome] at hmatched
      obtain ⟨found, hfound, herror⟩ := hmatched.exists_error
      rw [hfound]
      exact .error herror
  | ok result =>
      rw [houtcome, ok_bind] at hstray
      rw [reads_bind_of_ok houtcome] at hreads
      obtain ⟨front, back, rfl, hfront, hback⟩ := forall₂_append_left hreads
      rw [List.append_assoc] at hunread
      have hleader : Unstrayed (leader stream).outcome := by
        rw [houtcome]
        exact nofun
      have hmatched := h stream other front (back ++ rest) hlookahead hfront hunread hleader
      rw [houtcome] at hmatched
      obtain ⟨found, hfound, hvalues, hnextLookahead, hnextUnread⟩ := hmatched.exists_ok
      rw [hfound, ok_bind, ok_bind]
      exact hnext result.1 found.1 hvalues result.2 found.2 back rest hnextLookahead hback
        hnextUnread hstray

/-- Computations that read nothing and leave the stream as it is. -/
theorem tracks_of_unmoved {values : α → β → Prop} {leader : Evaluation α}
    {follower : Evaluation β} (hreads : ∀ stream, (leader stream).reads = [])
    (h : ∀ stream other, likeness.token stream.lookahead other.lookahead →
      Matched (fun result found => values result.1 found.1 ∧ result.2 = stream ∧ found.2 = other)
        likeness.Errors (leader stream).outcome (follower other).outcome) :
    Tracks likeness values leader follower := by
  intro stream other used rest hlookahead hused hunread _
  rw [hreads stream] at hused
  cases hused
  apply (h stream other hlookahead).mono
  intro result found hfound
  rw [hfound.2.1, hfound.2.2]
  exact ⟨hfound.1, hlookahead, hunread⟩

theorem tracks_pure {values : α → β → Prop} {x : α} {y : β} (h : values x y) :
    Tracks likeness values (pure x) (pure y) :=
  tracks_of_unmoved (fun _ => rfl) fun _ _ _ => .ok ⟨h, rfl, rfl⟩

theorem tracks_fail {values : α → β → Prop} {error other : Error}
    (h : likeness.Errors error other) :
    Tracks likeness values (fail error) (fail other) :=
  tracks_of_unmoved (fun _ => rfl) fun _ _ _ => .error h

theorem tracks_emit {event other : Event} (h : event.read? = none) :
    Tracks likeness (fun _ _ => True) (emit event) (emit other) :=
  tracks_of_unmoved (reads_emit h) fun _ _ _ => .ok ⟨trivial, rfl, rfl⟩

theorem tracks_lift {values : α → β → Prop} {outcome : Except Error α} {other : Except Error β}
    (h : Matched values likeness.Errors outcome other) :
    Tracks likeness values (StateT.lift (Run.ofExcept outcome))
      (StateT.lift (Run.ofExcept other)) := by
  apply tracks_of_unmoved (reads_lift outcome)
  intro stream other _
  rw [outcome_lift, outcome_lift]
  exact h.map fun _ _ hvalues => ⟨hvalues, rfl, rfl⟩

theorem tracks_peek : Tracks likeness likeness.token peek peek :=
  tracks_of_unmoved (fun _ => rfl) fun _ _ hlookahead => .ok ⟨hlookahead, rfl, rfl⟩

theorem tracks_within {values : α → β → Prop} {leader : Evaluation α} {follower : Evaluation β}
    (depth : Nat) (h : Tracks likeness values leader follower) :
    Tracks likeness values (within depth leader) (within depth follower) := by
  intro stream other used rest hlookahead hreads
  rw [reads_within] at hreads
  exact h stream other used rest hlookahead hreads

/-- What is read next is alike. -/
theorem tracks_beyond (values : α → β → Prop) {stream other : TokenStream}
    {used rest : List Token} {x : α} {y : β} (hvalues : values x y)
    (hend : other.lookahead.kind ≠ .endOfInput)
    (hreads : List.Forall₂ likeness.token (ofLexer stream.lexer).reads used)
    (hunread : other.unread = used ++ rest)
    (hstray : Unstrayed ((ofLexer stream.lexer).outcome.map (x, ·))) :
    Matched
      (fun result found => values result.1 found.1 ∧
        likeness.token result.2.lookahead found.2.lookahead ∧ found.2.unread = rest)
      likeness.Errors ((ofLexer stream.lexer).outcome.map (x, ·))
      ((ofLexer other.lexer).outcome.map (y, ·)) := by
  cases houtcome : (ofLexer stream.lexer).outcome with
  | error error =>
      rw [houtcome] at hstray
      obtain ⟨text, position, rfl⟩ := exists_stray_of_ofLexer houtcome
      exact absurd rfl (hstray text position)
  | ok after =>
      rw [(reads_ofLexer houtcome).1] at hreads
      rw [unread_of_kind hend] at hunread
      cases hreads with
      | cons htoken hnil =>
          cases hnil
          obtain ⟨later, hlater, hshown, hleft⟩ := exists_ofLexer hunread
          rw [hlater]
          exact .ok ⟨hvalues, hshown ▸ htoken, hleft⟩

theorem tracks_advance : Tracks likeness likeness.token advance advance := by
  intro stream other used rest hlookahead hreads hunread hstray
  have hkinds : stream.lookahead.kind = .endOfInput ↔ other.lookahead.kind = .endOfInput :=
    likeness.kind_iff hlookahead (by simp [Kind.IsNumber])
  rw [reads_advance] at hreads
  rw [outcome_advance] at hstray ⊢
  rw [outcome_advance]
  by_cases hkind : stream.lookahead.kind = .endOfInput
  · rw [if_pos hkind] at hreads ⊢
    rw [if_pos (hkinds.1 hkind)]
    cases hreads
    exact .ok ⟨hlookahead, hlookahead, hunread⟩
  · have hother : other.lookahead.kind ≠ .endOfInput := fun h => hkind (hkinds.2 h)
    rw [if_neg hkind] at hreads hstray ⊢
    rw [if_neg hother]
    exact tracks_beyond likeness.token hlookahead hother hreads hunread hstray

theorem tracks_closeParen : Tracks likeness (fun _ _ => True) closeParen closeParen := by
  intro stream other used rest hlookahead hreads hunread hstray
  have hkinds : stream.lookahead.kind = .closeParen ↔ other.lookahead.kind = .closeParen :=
    likeness.kind_iff hlookahead (by simp [Kind.IsNumber])
  rw [reads_closeParen] at hreads
  rw [outcome_closeParen] at hstray ⊢
  rw [outcome_closeParen]
  by_cases hkind : stream.lookahead.kind = .closeParen
  · have hother : other.lookahead.kind ≠ .endOfInput := by simp [hkinds.1 hkind]
    rw [if_pos hkind] at hreads hstray ⊢
    rw [if_pos (hkinds.1 hkind)]
    exact tracks_beyond (fun _ _ => True) trivial hother hreads hunread hstray
  · rw [if_neg hkind, if_neg fun h => hkind (hkinds.2 h)]
    exact .error (.unclosedParenthesis hlookahead)

theorem tracks_number {left right : Value} (h : likeness.Values left right) :
    Tracks likeness likeness.number (number left) (number right) :=
  tracks_lift h.toNumber

/-- To record that a function is applied leaves no trace in what it comes to. -/
theorem tracks_applyFunction {f g : UnaryFunction} {x y : Float}
    (h : likeness.number (f.apply x) (g.apply y)) :
    Tracks likeness likeness.number (applyFunction f x) (applyFunction g y) := by
  apply tracks_of_unmoved
  · intro stream
    unfold applyFunction
    cases f.label <;> rfl
  · intro stream other _
    rw [outcome_applyFunction, outcome_applyFunction]
    exact .ok ⟨h, rfl, rfl⟩

/-! ## Expressions -/

variable {operand follow : Threshold → Evaluation Value}

theorem tracks_openWith
    (hoperand : ∀ threshold, Tracks likeness likeness.Values (operand threshold)
      (follow threshold))
    {t u : Token} (htoken : likeness.token t u) (rule : Opening)
    (hopens : t.kind.role.opens = some rule) (power : Nat) :
    Tracks likeness likeness.Values (openWith first operand rule power t)
      (openWith second follow rule power u) := by
  apply (tracks_emit rfl).bind
  intro _ _ _
  cases rule with
  | literal =>
      obtain ⟨x, y, hx, hy, hnumber⟩ := likeness.value htoken (Kind.of_opens hopens)
      rw [hx, hy]
      exact (tracks_lift (.ok hnumber)).bind fun _ _ h => tracks_pure (.number h)
  | name => exact tracks_pure (likeness.resolve htoken (Kind.of_opens hopens))
  | negate =>
      apply (hoperand (.above power)).bind
      intro left right hvalue
      apply (tracks_number hvalue).bind
      intro x y hnumber
      exact tracks_pure (.number (likeness.negate hnumber))
  | group =>
      apply (hoperand .lowest).bind
      intro left right hvalue
      exact tracks_closeParen.bind fun _ _ _ => tracks_pure hvalue

theorem tracks_joinWith
    (hoperand : ∀ threshold, Tracks likeness likeness.Values (operand threshold)
      (follow threshold))
    {t u : Token} (htoken : likeness.token t u) {left right : Value}
    (hleft : likeness.Values left right) (rule : Joining) (power : Nat) :
    Tracks likeness likeness.Values (joinWith first operand rule power t left)
      (joinWith second follow rule power u right) := by
  apply (tracks_emit rfl).bind
  intro _ _ _
  cases rule with
  | binary operator =>
      apply (tracks_number hleft).bind
      intro x y hx
      apply (hoperand (.rightOperand power operator.associativity)).bind
      intro value other hvalue
      apply (tracks_number hvalue).bind
      intro x' y' hy
      exact tracks_pure (.number (likeness.apply operator hx hy))
  | call =>
      cases hleft with
      | number hnumber => exact tracks_fail (.notAFunction htoken hnumber)
      | @pending name hfunction =>
          apply (hoperand (.above power)).bind
          intro value other hvalue
          apply tracks_closeParen.bind
          intro _ _ _
          cases hf : first.function? name with
          | none =>
              rw [hf] at hfunction
              cases hg : second.function? name with
              | none => exact tracks_fail (.unknownFunction name)
              | some g => rw [hg] at hfunction; cases hfunction
          | some f =>
              rw [hf] at hfunction
              cases hg : second.function? name with
              | none => rw [hg] at hfunction; cases hfunction
              | some g =>
                  rw [hg] at hfunction
                  cases hfunction with
                  | some happly =>
                      apply (tracks_number hvalue).bind
                      intro x y hnumber
                      apply (tracks_applyFunction (happly x y hnumber)).bind
                      intro x' y' hresult
                      exact tracks_pure (.number hresult)

theorem tracks_extend
    (hoperand : ∀ threshold, Tracks likeness likeness.Values (operand threshold)
      (follow threshold))
    (threshold : Threshold) (turns : Nat) {left right : Value}
    (hleft : likeness.Values left right) :
    Tracks likeness likeness.Values (extend first operand threshold turns left)
      (extend second follow threshold turns right) := by
  induction turns generalizing left right with
  | zero => exact tracks_pure hleft
  | succ turns ih =>
      apply tracks_peek.bind
      intro t u htoken
      rw [← likeness.role_eq htoken]
      split
      · split
        · apply tracks_advance.bind
          intro taken other htaken
          apply (tracks_joinWith hoperand htaken hleft _ _).bind
          intro joined found hjoined
          exact ih hjoined
        · exact tracks_pure hleft
      · exact tracks_pure hleft

/-- The bounds on the turns of two loops may differ, but one that leaves room for both does
for each. -/
theorem tracks_climb
    (hoperand : ∀ threshold, Tracks likeness likeness.Values (operand threshold)
      (follow threshold))
    (hleads : ∀ threshold, Consumes (operand threshold))
    (hfollows : ∀ threshold, Consumes (follow threshold))
    (threshold : Threshold) {left right : Value} (hleft : likeness.Values left right) :
    Tracks likeness likeness.Values (climb first operand threshold left)
      (climb second follow threshold right) := by
  intro stream other
  have hroom := stream.left_le_room
  have hother := other.left_le_room
  have hleader : climb first operand threshold left stream =
      extend first operand threshold (stream.room + other.room) left stream :=
    extend_congr first hleads threshold left hroom (by omega)
  have hfollower : climb second follow threshold right other =
      extend second follow threshold (stream.room + other.room) right other :=
    extend_congr second hfollows threshold right hother (by omega)
  rw [hleader, hfollower]
  exact tracks_extend hoperand threshold _ hleft stream other

theorem tracks_expressionWith
    (hoperand : ∀ threshold, Tracks likeness likeness.Values (operand threshold)
      (follow threshold))
    (hleads : ∀ threshold, Consumes (operand threshold))
    (hfollows : ∀ threshold, Consumes (follow threshold)) (threshold : Threshold) :
    Tracks likeness likeness.Values (expressionWith first operand threshold)
      (expressionWith second follow threshold) := by
  apply tracks_advance.bind
  intro t u htoken
  have hopens := tracks_openWith hoperand htoken
  rw [← likeness.role_eq htoken]
  revert hopens
  obtain ⟨power, opens, joins⟩ := t.kind.role
  intro hopens
  cases opens with
  | none => exact tracks_fail (.unexpectedToken htoken)
  | some rule =>
      apply (hopens rule rfl power).bind
      intro left right hleft
      exact tracks_climb hoperand hleads hfollows threshold hleft

theorem tracks_expression (limit levels : Nat) (threshold : Threshold) :
    Tracks likeness likeness.Values (expression first limit levels threshold)
      (expression second limit levels threshold) := by
  induction levels generalizing threshold with
  | zero => exact tracks_fail (.nestedTooDeeply limit)
  | succ levels ih =>
      exact tracks_within _ (tracks_expressionWith ih (consumes_expression first limit levels)
        (consumes_expression second limit levels) threshold)

theorem tracks_whole (limit : Nat) :
    Tracks likeness likeness.number (whole first limit) (whole second limit) := by
  apply (tracks_expression limit limit .lowest).bind
  intro left right hvalue
  apply tracks_peek.bind
  intro t u htoken
  have hkinds : t.kind = .endOfInput ↔ u.kind = .endOfInput :=
    likeness.kind_iff htoken (by simp [Kind.IsNumber])
  by_cases hkind : t.kind = .endOfInput
  · rw [if_pos hkind, if_pos (hkinds.1 hkind)]
    exact tracks_number hvalue
  · rw [if_neg hkind, if_neg fun h => hkind (hkinds.2 h)]
    exact tracks_fail (.unexpectedToken htoken)

end Tracks

end Evaluation

/-! ## Whole formulas -/

/-- Two formulas go alike if the second one has in front what is like all that is read of the
first one. -/
theorem Likeness.matched {first second : Registry} (likeness : Likeness first second)
    {limit : Nat} {text other : String} {used : List Token}
    (hreads : List.Forall₂ likeness.token (run first limit text).reads used)
    (hsights : used <+: (Scan.ofText other).sights)
    (hstray : Unstrayed (evaluateWithin first limit text)) :
    Matched likeness.number likeness.Errors (evaluateWithin first limit text)
      (evaluateWithin second limit other) := by
  rw [evaluateWithin_eq] at hstray
  rw [evaluateWithin_eq, evaluateWithin_eq]
  rw [reads_run] at hreads
  cases hread : (TokenStream.ofText text).outcome with
  | error error =>
      obtain ⟨character, position, rfl⟩ := exists_stray_of_ofLexer hread
      rw [hread] at hstray
      exact absurd rfl (hstray character position)
  | ok stream =>
      rw [hread] at hreads hstray
      rw [TokenStream.ofText, (reads_ofLexer hread).1] at hreads
      obtain ⟨rest, hsights⟩ := hsights
      cases hreads with
      | @cons _ seen _ front htoken hwhole =>
          obtain ⟨later, hlater, hshown, hleft⟩ := @exists_ofLexer (.ofText other) _ _ hsights.symm
          rw [TokenStream.ofText, hlater, ok_bind, ok_bind]
          rw [ok_bind] at hstray
          have hmatched := Evaluation.tracks_whole limit stream later front rest (hshown ▸ htoken)
            hwhole hleft ?_
          · exact hmatched.bind fun _ _ h => .ok h.1
          · intro character position herror
            rw [herror] at hstray
            exact hstray character position rfl

theorem unstrayed_of_tokenize {text : String} {tokens : List Token}
    (h : tokenize text = .ok tokens) (registry : Registry) (limit : Nat) :
    Unstrayed (evaluateWithin registry limit text) := by
  intro character position herror
  have hreported := meets_evaluateWithin registry limit text
  rw [herror] at hreported
  cases hreported with
  | strayCharacter hending =>
      have hstray := Scan.toExcept_eq_error_iff.2 hending
      rw [tokenize, hstray] at h
      cases h

/-- Two formulas that are tokens all through go alike if all of them are alike. -/
theorem Likeness.matched_of_tokenize {first second : Registry} (likeness : Likeness first second)
    {limit : Nat} {text other : String} {tokens : List Token} (h : tokenize text = .ok tokens)
    (hsights : List.Forall₂ likeness.token (Scan.ofText text).sights (Scan.ofText other).sights) :
    Matched likeness.number likeness.Errors (evaluateWithin first limit text)
      (evaluateWithin second limit other) := by
  obtain ⟨back, hback⟩ := reads_prefix_sights first limit text
  rw [← hback] at hsights
  obtain ⟨used, rest, hother, hreads, _⟩ := Evaluation.forall₂_append_left hsights
  exact likeness.matched hreads ⟨rest, hother.symm⟩ (unstrayed_of_tokenize h first limit)

end Formula
