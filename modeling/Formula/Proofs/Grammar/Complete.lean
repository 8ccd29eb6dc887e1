import Formula.Proofs.Grammar.Basic

/-!
# Whatever the grammar derives has its value

An expression that starts with derived tokens goes on as if their value had been
found already, in front of the tokens that follow.  The statement is about what
is left to do and not about the end of the expression, since the loop builds the
left operands of a derivation one around the other.
-/

namespace Formula

open Evaluation TokenStream

variable {registry : Registry} {limit : Nat}

/-- A closing parenthesis ends every expression. -/
theorem letsFollow_closing {stream after : TokenStream} {closing : Token} {tokens : List Token}
    (power : Nat) (htakes : Takes stream (closing :: tokens) after)
    (hclosing : closing.kind = .closeParen) : stream.LetsFollow power := by
  exact letsFollow_of_joins power (joins_closing htakes hclosing)

/-- The value of derived tokens is found, whatever levels above their nesting
are allowed and whatever extends them behind. -/
def Completes (registry : Registry) (limit : Nat) (symbol : Symbol) (tokens : List Token)
    (value : Value) (nesting : Nat) : Prop :=
  ∀ levels threshold stream after, Takes stream tokens after → nesting ≤ levels →
    (symbol = .argument ∨ threshold.admits symbol.strength = true) →
      after.LetsFollow symbol.follow →
        (expressionWith registry (expression registry limit levels) threshold stream).outcome =
        (climb registry (expression registry limit levels) threshold value after).outcome

/-- An operand ends where its threshold does not admit what follows. -/
theorem Completes.operand {symbol : Symbol} {tokens : List Token} {value : Value}
    {nesting : Nat} (h : Completes registry limit symbol tokens value nesting) {levels : Nat}
    {threshold : Threshold} {stream after : TokenStream} (htakes : Takes stream tokens after)
    (hlevels : nesting < levels)
    (hadmits : symbol = .argument ∨ threshold.admits symbol.strength = true)
    (hfollow : after.LetsFollow symbol.follow) (hstops : threshold.Stops after) :
    (expression registry limit levels threshold stream).outcome = .ok (value, after) := by
  cases levels with
  | zero => omega
  | succ levels =>
      rw [outcome_expression_succ,
        h levels threshold stream after htakes (by omega) hadmits hfollow]
      exact outcome_climb_of_stops registry (consumes_expression registry limit levels) value hstops

/-! ## One rule at a time -/

theorem completes_literal {symbol : Symbol} {token : Token} {x : Float}
    (hkind : token.kind = .decimal ∨ token.kind = .integer) (hvalue : token.value = .ok x) :
    Completes registry limit symbol [token] (.number x) 0 := by
  intro levels threshold stream after htakes _ _ _
  have hopens : token.kind.role.opens = some .literal := by
    rcases hkind with hkind | hkind <;> rw [hkind] <;> rfl
  rw [outcome_expressionWith_of_takes registry threshold htakes hopens, outcome_openWith]
  simp only [hvalue, Except.map, ok_bind]

theorem completes_name {symbol : Symbol} {token : Token} {value : Value}
    (hkind : token.kind = .name) (hvalue : resolve registry token.text = value) :
    Completes registry limit symbol [token] value 0 := by
  intro levels threshold stream after htakes _ _ _
  have hopens : token.kind.role.opens = some .name := by rw [hkind]; rfl
  rw [outcome_expressionWith_of_takes registry threshold htakes hopens, outcome_openWith]
  simp only [hvalue, ok_bind]

theorem completes_group {inner symbol : Symbol} {opening closing : Token} {tokens : List Token}
    {value : Value} {nesting : Nat} (hopening : opening.kind = .openParen)
    (hclosing : closing.kind = .closeParen) (hinner : inner = .expression ∨ inner = .primary)
    (h : Completes registry limit inner tokens value nesting) :
    Completes registry limit symbol (opening :: (tokens ++ [closing])) value (1 + nesting) := by
  intro levels threshold stream after htakes hlevels _ _
  have hopens : opening.kind.role.opens = some .group := by rw [hopening]; rfl
  have hadmits : inner = .argument ∨ Threshold.lowest.admits inner.strength = true := by
    rcases hinner with rfl | rfl <;> exact .inr rfl
  obtain ⟨first, hfirst, hrest⟩ := htakes.uncons
  obtain ⟨second, hsecond, hlast⟩ := hrest.split
  have hfollow : ∀ power, second.LetsFollow power :=
    fun power => letsFollow_closing power hlast hclosing
  have hoperand := h.operand hsecond (by omega : nesting < levels) hadmits (hfollow _)
    ((hfollow 0).stops .lowest rfl)
  rw [outcome_expressionWith_of_takes registry threshold hfirst hopens, outcome_openWith]
  simp only [hoperand, ok_bind, closeParen_of_takes hlast hclosing]

theorem completes_negation {symbol : Symbol} {minus : Token} {tokens : List Token} {x : Float}
    {nesting : Nat} (hsymbol : symbol = .negative ∨ symbol = .argument)
    (hminus : minus.kind = .minus)
    (h : Completes registry limit .term tokens (.number x) nesting) :
    Completes registry limit symbol (minus :: tokens) (.number (-x)) (1 + nesting) := by
  intro levels threshold stream after htakes hlevels _ hfollow
  have hopens : minus.kind.role.opens = some .negate := by rw [hminus]; rfl
  have hpower : minus.kind.role.power = 10 := by rw [hminus]; rfl
  have hten : after.LetsFollow 10 := by
    rcases hsymbol with rfl | rfl <;> exact hfollow
  obtain ⟨first, hfirst, hrest⟩ := htakes.uncons
  have hoperand := h.operand hrest (by omega : nesting < levels) (.inr rfl) hten
    (hten.stops (.above 10) rfl)
  rw [outcome_expressionWith_of_takes registry threshold hfirst hopens, outcome_openWith, hpower]
  simp only [hoperand, ok_bind, Value.toNumber, Except.map]

theorem completes_call {opening closing : Token} {head tokens : List Token} {name : String}
    {function : UnaryFunction} {x : Float} {headNesting nesting : Nat}
    (hfunction : registry.function? name = some function) (hopening : opening.kind = .openParen)
    (hclosing : closing.kind = .closeParen)
    (hhead : Completes registry limit .primary head (.pending name) headNesting)
    (hargument : Completes registry limit .argument tokens (.number x) nesting) :
    Completes registry limit .primary (head ++ opening :: (tokens ++ [closing]))
      (.number (function.apply x)) (max headNesting (1 + nesting)) := by
  intro levels threshold stream after htakes hlevels hadmits _
  have hadmits : threshold.admits 50 = true := by simpa [Symbol.strength] using hadmits
  have hjoins : opening.kind.role.joins = some .call := by rw [hopening]; rfl
  have hpower : opening.kind.role.power = 50 := by rw [hopening]; rfl
  obtain ⟨first, hfirst, hcall⟩ := htakes.split
  obtain ⟨second, hsecond, hrest⟩ := hcall.uncons
  obtain ⟨third, hthird, hlast⟩ := hrest.split
  have hfollow : ∀ power, third.LetsFollow power :=
    fun power => letsFollow_closing power hlast hclosing
  obtain rfl := hcall.head
  have hopeningFollow : first.LetsFollow 50 := fun _ _ => Nat.le_of_eq hpower
  have hoperand := hargument.operand hthird (by omega : nesting < levels) (.inl rfl) (hfollow _)
    ((hfollow 0).stops (.above 50) rfl)
  rw [hhead levels threshold stream first hfirst (by omega) (.inr hadmits) hopeningFollow,
    outcome_climb_of_admits registry (consumes_expression registry limit levels) _ hjoins hpower
      hadmits,
    advance_of_takes hsecond]
  simp only [ok_bind, outcome_joinWith, hoperand, closeParen_of_takes hlast hclosing, hfunction,
    Value.toNumber, Except.map]

theorem completes_chain {symbol inner : Symbol} {tokens : List Token} {value : Value}
    {nesting : Nat} (hchain : Chain symbol inner)
    (h : Completes registry limit inner tokens value nesting) :
    Completes registry limit symbol tokens value nesting := by
  intro levels threshold stream after htakes hlevels hadmits hfollow
  obtain ⟨hstrength, hle, hne⟩ := hchain.strength_le
  refine h levels threshold stream after htakes hlevels ?_ (hfollow.mono hle)
  exact .inr (Threshold.admits_of_le hstrength (hadmits.resolve_left hne))

theorem completes_binary {symbol left right : Symbol} {operator : Operator} {token : Token}
    {front back : List Token} {x y : Float} {leftNesting rightNesting : Nat}
    (hrule : Infix symbol left operator right) (htoken : token.kind = operator.kind)
    (hleft : Completes registry limit left front (.number x) leftNesting)
    (hright : Completes registry limit right back (.number y) rightNesting) :
    Completes registry limit symbol (front ++ token :: back) (.number (operator.apply x y))
      (max leftNesting (1 + rightNesting)) := by
  intro levels threshold stream after htakes hlevels hadmits hfollow
  obtain ⟨hsame, hle, hleftFollow, hrightFollow, hrightAdmits, hrightStops⟩ := hrule.strength
  have hadmits := hadmits.resolve_left hrule.ne_argument
  obtain ⟨hpower, hjoins⟩ := operator.role_kind
  rw [← htoken] at hpower hjoins
  obtain ⟨first, hfirst, hrest⟩ := htakes.split
  obtain ⟨second, hsecond, hlast⟩ := hrest.uncons
  obtain rfl := hrest.head
  have htokenFollow : first.LetsFollow left.follow :=
    fun _ _ => Nat.le_trans (Nat.le_of_eq hpower) hleftFollow
  have hoperand := hright.operand hlast (by omega : rightNesting < levels) (.inr hrightAdmits)
    (hfollow.mono hrightFollow) (hfollow.stops _ hrightStops)
  rw [hleft levels threshold stream first hfirst (by omega)
      (.inr (Threshold.admits_of_le hle hadmits)) htokenFollow,
    outcome_climb_of_admits registry (consumes_expression registry limit levels) _ hjoins hpower
      (hsame ▸ hadmits),
    advance_of_takes hsecond]
  unfold Operator.rightThreshold at hoperand
  simp only [ok_bind, outcome_joinWith, hoperand, Value.toNumber, Except.map]

/-! ## Whole derivations -/

theorem Head.completes {tokens : List Token} {name : String} {nesting : Nat}
    (h : Head registry tokens name nesting) :
    Completes registry limit .primary tokens (.pending name) nesting := by
  induction h with
  | name hkind hconstant hfunction =>
      exact completes_name hkind (by rw [resolve, hconstant])
  | group hopening hclosing _ ih => exact completes_group hopening hclosing (.inr rfl) ih

theorem Derives.completes {symbol : Symbol} {tokens : List Token} {x : Float} {nesting : Nat}
    (h : Derives registry symbol tokens x nesting) :
    Completes registry limit symbol tokens (.number x) nesting := by
  induction h with
  | number _ hkind hvalue => exact completes_literal hkind hvalue
  | constant _ hkind hconstant => exact completes_name hkind (by rw [resolve, hconstant])
  | group _ hopening hclosing _ ih => exact completes_group hopening hclosing (.inl rfl) ih
  | negation hsymbol hminus _ ih => exact completes_negation hsymbol hminus ih
  | call hhead hfunction hopening hclosing _ ih =>
      exact completes_call hfunction hopening hclosing hhead.completes ih
  | chain hchain _ ih => exact completes_chain hchain ih
  | binary hrule htoken _ _ ihleft ihright => exact completes_binary hrule htoken ihleft ihright

end Formula
