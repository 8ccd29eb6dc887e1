import Formula.Proofs.Tree.Printed

/-!
# Printed trees are evaluated like trees

The one pass over the tokens of a printed tree finds what recursion over the
tree finds, errors included.  Every part of a tree is an expression in
parentheses, which ends before the closing one whatever its threshold.
-/

namespace Formula

def Error.unplaced : Error → Error
  | .notAFunction found _ => .notAFunction found 0
  | error => error

/-- Outcomes that are the same but for the position at which a number is applied. -/
def Alike {α : Type} (first second : Except Error α) : Prop :=
  first.mapError Error.unplaced = second.mapError Error.unplaced

namespace Alike

variable {α β σ : Type}

theorem refl (outcome : Except Error α) : Alike outcome outcome :=
  rfl

theorem bind {first second : Except Error α} {next later : α → Except Error β}
    (h : Alike first second) (hnext : ∀ value, Alike (next value) (later value)) :
    Alike (first >>= next) (second >>= later) := by
  unfold Alike at h
  cases first with
  | error error =>
      cases second with
      | error other =>
          have herror : error.unplaced = other.unplaced := Except.error.inj h
          simp only [Alike, error_bind, Except.mapError, herror]
      | ok value => cases h
  | ok value =>
      cases second with
      | error other => cases h
      | ok other =>
          cases h
          exact hnext value

/-- What comes after a value that leaves a known state. -/
theorem bind_state {first : Except Error (α × σ)} {second : Except Error α} {state : σ}
    {next : α × σ → Except Error β} {later : α → Except Error β}
    (h : Alike first (second >>= fun value => .ok (value, state)))
    (hnext : ∀ value, Alike (next (value, state)) (later value)) :
    Alike (first >>= next) (second >>= later) := by
  have hbind := h.bind fun result => refl (next result)
  rw [bind_assoc] at hbind
  exact Eq.trans hbind (bind (refl second) hnext)

end Alike

open Evaluation TokenStream

variable {registry : Registry} {limit : Nat}

/-- The tokens evaluate to what the tree does, if nothing behind them joins. -/
def Agrees (registry : Registry) (limit : Nat) (tree : Tree) (tokens : List Token) : Prop :=
  ∀ levels stream after, Takes stream tokens after → 1 + 2 * tree.height ≤ levels →
    after.lookahead.kind.role.joins = none →
      Alike (expression registry limit levels .lowest stream).outcome
        (tree.evaluate registry >>= fun value => .ok (value, after))

theorem outcome_climb_of_joins {levels : Nat} {stream : TokenStream} (threshold : Threshold)
    (value : Value) (hjoins : stream.lookahead.kind.role.joins = none) :
    (climb registry (expression registry limit levels) threshold value stream).outcome =
      .ok (value, stream) :=
  outcome_climb_of_stops registry (consumes_expression registry limit levels) value
    (threshold.stops_of_joins hjoins)

/-! ## Parts in parentheses -/

section Grouped

variable {tree : Tree} {tokens group : List Token} {levels : Nat} {stream after : TokenStream}

/-- A part in parentheses opens an expression with its value. -/
theorem Agrees.opening (h : Agrees registry limit tree tokens) (hgroup : Grouped tokens group)
    (htakes : Takes stream group after) (hlevels : 1 + 2 * tree.height ≤ levels)
    (threshold : Threshold) :
    Alike
      (expressionWith registry (expression registry limit levels) threshold stream).outcome
      (tree.evaluate registry >>= fun value =>
        (climb registry (expression registry limit levels) threshold value after).outcome) := by
  cases hgroup with
  | @intro opening closing _ hopening hclosing =>
      have hopens : opening.kind.role.opens = some .group := by rw [hopening]; rfl
      obtain ⟨first, hfirst, hrest⟩ := htakes.uncons
      obtain ⟨second, hsecond, hlast⟩ := hrest.split
      rw [outcome_expressionWith_of_takes registry threshold hfirst hopens, outcome_openWith]
      simp only [bind_assoc]
      refine (h levels first second hsecond hlevels (joins_closing hlast hclosing)).bind_state ?_
      intro value
      simp only [closeParen_of_takes hlast hclosing, ok_bind]
      exact .refl _

/-- A part in parentheses is an operand. -/
theorem Agrees.operand (h : Agrees registry limit tree tokens) (hgroup : Grouped tokens group)
    (htakes : Takes stream group after) (hlevels : 2 + 2 * tree.height ≤ levels)
    (threshold : Threshold) (hjoins : after.lookahead.kind.role.joins = none) :
    Alike (expression registry limit levels threshold stream).outcome
      (tree.evaluate registry >>= fun value => .ok (value, after)) := by
  cases levels with
  | zero => omega
  | succ levels =>
      have hopening := h.opening hgroup htakes (by omega : _ ≤ levels) threshold
      simp only [outcome_climb_of_joins threshold _ hjoins] at hopening
      exact hopening

end Grouped

/-! ## One operation at a time -/

theorem agrees_literal {numeral : Numeral} {token : Token} (hkind : token.kind = numeral.kind)
    (htext : token.text = String.ofList numeral.characters) :
    Agrees registry limit (.literal numeral) [token] := by
  intro levels stream after htakes hlevels hafter
  obtain ⟨levels, rfl⟩ := Nat.exists_eq_add_of_le' (by omega : 1 ≤ levels)
  have hopens : token.kind.role.opens = some .literal := by
    rw [hkind]
    cases numeral <;> rfl
  have hvalue : token.value = .ok numeral.value := by
    rw [Token.value, htext, numeral.parse_characters]
    rfl
  rw [outcome_expression_succ, outcome_expressionWith_of_takes registry .lowest htakes hopens,
    outcome_openWith]
  simp only [hvalue, Except.map, ok_bind, outcome_climb_of_joins _ _ hafter, Tree.evaluate]
  exact .refl _

theorem agrees_name {word : Word} {token : Token} (hkind : token.kind = .name)
    (htext : token.text = String.ofList word.letters) :
    Agrees registry limit (.name word) [token] := by
  intro levels stream after htakes hlevels hafter
  obtain ⟨levels, rfl⟩ := Nat.exists_eq_add_of_le' (by omega : 1 ≤ levels)
  have hopens : token.kind.role.opens = some .name := by rw [hkind]; rfl
  rw [outcome_expression_succ, outcome_expressionWith_of_takes registry .lowest htakes hopens,
    outcome_openWith]
  simp only [htext, ok_bind, outcome_climb_of_joins _ _ hafter, Tree.evaluate]
  exact .refl _

theorem agrees_negate {operand : Tree} {minus : Token} {tokens group : List Token}
    (hminus : minus.kind = .minus) (hgroup : Grouped tokens group)
    (h : Agrees registry limit operand tokens) :
    Agrees registry limit (.negate operand) (minus :: group) := by
  intro levels stream after htakes hlevels hafter
  obtain ⟨levels, rfl⟩ := Nat.exists_eq_add_of_le' (by omega : 1 ≤ levels)
  have hopens : minus.kind.role.opens = some .negate := by rw [hminus]; rfl
  have hbound : 2 + 2 * operand.height ≤ levels := by
    rw [Tree.height] at hlevels
    omega
  obtain ⟨first, hfirst, hrest⟩ := htakes.uncons
  rw [outcome_expression_succ, outcome_expressionWith_of_takes registry .lowest hfirst hopens,
    outcome_openWith]
  simp only [Tree.evaluate, bind_assoc]
  refine (h.operand hgroup hrest hbound _ hafter).bind_state ?_
  intro value
  cases value with
  | number x =>
      simp only [Value.toNumber, Except.map, ok_bind, outcome_climb_of_joins _ _ hafter]
      exact .refl _
  | pending text => exact .refl _

theorem agrees_binary {operator : Operator} {left right : Tree} {token : Token}
    {leftTokens rightTokens front back : List Token} (hfront : Grouped leftTokens front)
    (htoken : token.kind = operator.kind) (hback : Grouped rightTokens back)
    (hleft : Agrees registry limit left leftTokens)
    (hright : Agrees registry limit right rightTokens) :
    Agrees registry limit (.binary operator left right) (front ++ token :: back) := by
  intro levels stream after htakes hlevels hafter
  obtain ⟨levels, rfl⟩ := Nat.exists_eq_add_of_le' (by omega : 1 ≤ levels)
  obtain ⟨hpower, hjoins⟩ := operator.role_kind
  rw [← htoken] at hpower hjoins
  have hadmits : Threshold.lowest.admits operator.strength = true := by cases operator <;> rfl
  rw [Tree.height] at hlevels
  have hleftBound : 1 + 2 * left.height ≤ levels := by omega
  have hrightBound : 2 + 2 * right.height ≤ levels := by omega
  obtain ⟨first, hfirst, hrest⟩ := htakes.split
  obtain ⟨second, hsecond, hlast⟩ := hrest.uncons
  obtain rfl := hrest.head
  rw [outcome_expression_succ]
  refine Eq.trans (hleft.opening hfront hfirst hleftBound .lowest) ?_
  simp only [Tree.evaluate, bind_assoc]
  refine (Alike.refl _).bind ?_
  intro value
  rw [outcome_climb_of_admits registry (consumes_expression registry limit levels) value hjoins
    hpower hadmits, advance_of_takes hsecond]
  simp only [ok_bind, outcome_joinWith, bind_assoc]
  refine (Alike.refl _).bind ?_
  intro x
  refine (hright.operand hback hlast hrightBound _ hafter).bind_state ?_
  intro other
  cases other with
  | number y =>
      simp only [Value.toNumber, Except.map, ok_bind, outcome_climb_of_joins _ _ hafter]
      exact .refl _
  | pending text => exact .refl _

theorem agrees_call {head argument : Tree} {headTokens argumentTokens front inner back : List Token}
    (hfront : Grouped headTokens front) (hinner : Grouped argumentTokens inner)
    (hback : Grouped inner back) (hhead : Agrees registry limit head headTokens)
    (hargument : Agrees registry limit argument argumentTokens) :
    Agrees registry limit (.call head argument) (front ++ back) := by
  intro levels stream after htakes hlevels hafter
  obtain ⟨levels, rfl⟩ := Nat.exists_eq_add_of_le' (by omega : 1 ≤ levels)
  rw [Tree.height] at hlevels
  have hheadBound : 1 + 2 * head.height ≤ levels := by omega
  have hargumentBound : 2 + 2 * argument.height ≤ levels := by omega
  obtain ⟨first, hfirst, hcall⟩ := htakes.split
  cases hback with
  | @intro opening closing _ hopening hclosing =>
      obtain ⟨second, hsecond, hrest⟩ := hcall.uncons
      obtain ⟨third, hthird, hlast⟩ := hrest.split
      obtain rfl := hcall.head
      have hjoins : first.lookahead.kind.role.joins = some .call := by rw [hopening]; rfl
      have hpower : first.lookahead.kind.role.power = 50 := by rw [hopening]; rfl
      rw [outcome_expression_succ]
      refine Eq.trans (hhead.opening hfront hfirst hheadBound .lowest) ?_
      simp only [Tree.evaluate, bind_assoc]
      refine (Alike.refl _).bind ?_
      intro value
      rw [outcome_climb_of_admits registry (consumes_expression registry limit levels) value hjoins
        hpower rfl, advance_of_takes hsecond]
      simp only [ok_bind, outcome_joinWith]
      cases value with
      | number x => rfl
      | pending text =>
          simp only [bind_assoc]
          refine (hargument.operand hinner hthird hargumentBound _
            (joins_closing hlast hclosing)).bind_state ?_
          intro found
          simp only [closeParen_of_takes hlast hclosing, ok_bind]
          cases registry.function? text with
          | none => exact .refl _
          | some function =>
              cases found with
              | number x =>
                  simp only [Value.toNumber, Except.map, ok_bind, outcome_climb_of_joins _ _ hafter]
                  exact .refl _
              | pending other => exact .refl _

/-! ## Whole trees -/

theorem Tree.Spells.agrees {tree : Tree} {tokens : List Token} (h : tree.Spells tokens) :
    Agrees registry limit tree tokens := by
  induction h with
  | literal hkind htext => exact agrees_literal hkind htext
  | name hkind htext => exact agrees_name hkind htext
  | negate hminus _ hgroup ih => exact agrees_negate hminus hgroup ih
  | binary _ hfront htoken _ hback ihleft ihright =>
      exact agrees_binary hfront htoken hback ihleft ihright
  | call _ hfront _ hinner hback ihhead ihargument =>
      exact agrees_call hfront hinner hback ihhead ihargument

/-- With two levels for each operation on top of another one, a printed tree has
the value or the error of the tree, but for the position in the error. -/
theorem evaluateWithin_print (registry : Registry) (tree : Tree) (limit : Nat)
    (hlimit : 1 + 2 * tree.height ≤ limit) :
    Alike (evaluateWithin registry limit tree.print)
      (tree.evaluate registry >>= fun value => value.toNumber) := by
  obtain ⟨tokens, hspells, htokens⟩ := tree.tokenize_print
  obtain ⟨stream, last, hread, htakes, hlast⟩ := takes_of_tokenize htokens
  have hagrees : Agrees registry limit tree tokens := hspells.agrees
  have hexpression := hagrees limit stream last htakes hlimit (by rw [hlast]; rfl)
  rw [evaluateWithin_eq, hread, ok_bind, outcome_whole]
  simp only [bind_assoc]
  refine hexpression.bind_state ?_
  intro value
  simp only [if_pos hlast]
  cases value with
  | number x => exact .refl _
  | pending text => exact .refl _

/-- Where nothing has a meaning, the call `(f)((x))` fails at its function. -/
theorem evaluateWithin_print_unknown_call :
    1 + 2 * (Tree.call (.name (.ofLetter 'f' rfl)) (.name (.ofLetter 'x' rfl))).height ≤ 3 ∧
      Alike (evaluateWithin .empty 3 "(f)((x))") (.error (.unknownFunction "f")) := by
  refine ⟨by decide, ?_⟩
  have hprint := evaluateWithin_print .empty
    (.call (.name (.ofLetter 'f' rfl)) (.name (.ofLetter 'x' rfl))) 3 (by decide)
  have hconstant : ∀ text, Registry.empty.constant? text = none := by
    simp [Registry.empty, Registry.constant?]
  have hfunction : ∀ text, Registry.empty.function? text = none := by
    simp [Registry.empty, Registry.function?]
  simp only [Tree.evaluate, resolve, hconstant, hfunction, ok_bind, error_bind] at hprint
  exact hprint

end Formula
