import Formula.Proofs.Grammar.Basic
import Formula.Proofs.Reading

/-!
# What may come next in a formula

Read from left to right, a formula of numbers, constants and operators is due an
operand or an operator, below as many parentheses as are open.  Whatever the
grammar derives keeps to that, up to a name that may stand for a function: behind
it anything may come.
-/

namespace Formula

inductive Due where
  /-- An operand, with so many parentheses open. -/
  | operand (depth : Nat)
  /-- An operator, with so many parentheses open, or a parenthesis that closes. -/
  | operator (depth : Nat)
  /-- Nothing behind the end. -/
  | nothing
  /-- Anything behind a name that is no constant. -/
  | anything
  deriving DecidableEq, Repr

namespace Due

/-- What may come behind a token, if the token may come. -/
def next (registry : Registry) (content : Kind × String) : Due → Option Due
  | .operand depth =>
      match content.1 with
      | .decimal | .integer => some (.operator depth)
      | .name =>
          if (registry.constant? content.2).isSome then some (.operator depth) else some .anything
      | .minus => some (.operand depth)
      | .openParen => some (.operand (depth + 1))
      | _ => none
  | .operator depth =>
      match content.1, depth with
      | .plus, _ | .minus, _ | .star, _ | .slash, _ | .caret, _ => some (.operand depth)
      | .closeParen, depth + 1 => some (.operator depth)
      | .endOfInput, 0 => some .nothing
      | _, _ => none
  | .nothing => none
  | .anything => some .anything

def along (registry : Registry) (due : Due) (contents : List (Kind × String)) : Option Due :=
  contents.foldlM (fun due content => due.next registry content) due

variable {registry : Registry}

theorem along_cons (due : Due) (content : Kind × String)
    (contents : List (Kind × String)) :
    due.along registry (content :: contents) =
      (due.next registry content).bind fun later => later.along registry contents :=
  List.foldlM_cons

theorem along_append (due : Due) (front back : List (Kind × String)) :
    due.along registry (front ++ back) =
      (due.along registry front).bind fun middle => middle.along registry back :=
  List.foldlM_append

theorem along_anything (contents : List (Kind × String)) :
    along registry .anything contents = some .anything := by
  induction contents with
  | nil => rfl
  | cons content contents ih => exact ih

/-- What cannot be read cannot be read with more behind it. -/
theorem along_ne_none_of_prefix {due : Due} {front contents : List (Kind × String)}
    (hfront : front <+: contents) (h : due.along registry contents ≠ none) :
    due.along registry front ≠ none := by
  obtain ⟨back, rfl⟩ := hfront
  intro hnone
  rw [along_append, hnone] at h
  exact h rfl

/-- Tokens that are not due cannot be read. -/
theorem along_concat_eq_none {start due : Due} {contents : List (Kind × String)}
    {content : Kind × String} (halong : start.along registry contents = some due)
    (hnext : due.next registry content = none) :
    start.along registry (contents ++ [content]) = none := by
  rw [along_append, halong, Option.bind_some, along_cons, hnext]
  rfl

/-! ### Tokens that may come -/

section Next

variable {token : Token} (depth : Nat)

theorem next_number (h : token.kind = .decimal ∨ token.kind = .integer) :
    (operand depth).next registry token.content = some (.operator depth) := by
  rcases h with h | h <;> rw [next, Token.content, h]

theorem next_constant (h : token.kind = .name)
    (hconstant : (registry.constant? token.text).isSome = true) :
    (operand depth).next registry token.content = some (.operator depth) := by
  simp [next, Token.content, h, hconstant]

theorem next_name (h : token.kind = .name) (hconstant : registry.constant? token.text = none) :
    (operand depth).next registry token.content = some .anything := by
  simp [next, Token.content, h, hconstant]

theorem next_minus (h : token.kind = .minus) :
    (operand depth).next registry token.content = some (.operand depth) := by
  rw [next, Token.content, h]

theorem next_openParen (h : token.kind = .openParen) :
    (operand depth).next registry token.content = some (.operand (depth + 1)) := by
  rw [next, Token.content, h]

theorem next_closeParen (h : token.kind = .closeParen) :
    (operator (depth + 1)).next registry token.content = some (.operator depth) := by
  unfold next
  rw [show token.content.1 = .closeParen from h]

theorem next_operator {sign : Operator} (h : token.kind = sign.kind) :
    (operator depth).next registry token.content = some (.operand depth) := by
  unfold next
  rw [show token.content.1 = sign.kind from h]
  cases sign <;> rfl

/-! ### Tokens that may not come -/

theorem next_of_not_opens (h : token.kind.role.opens = none) :
    (operand depth).next registry token.content = none := by
  unfold next
  rw [show token.content.1 = token.kind from rfl]
  cases hkind : token.kind with
  | decimal | integer | name | minus | openParen =>
      rw [hkind] at h
      cases h
  | _ => rfl

theorem next_of_call (h : token.kind = .openParen) :
    (operator depth).next registry token.content = none := by
  unfold next
  rw [show token.content.1 = .openParen from h]

/-- Where no operator comes, only what ends an expression may. -/
theorem next_of_not_joins (hjoins : token.kind.role.joins = none)
    (hclose : token.kind = .closeParen → depth = 0) (hend : token.kind = .endOfInput → depth ≠ 0) :
    (operator depth).next registry token.content = none := by
  unfold next
  rw [show token.content.1 = token.kind from rfl]
  cases hkind : token.kind with
  | closeParen => rw [hclose hkind]
  | endOfInput =>
      cases depth with
      | zero => exact absurd rfl (hend hkind)
      | succ depth => rfl
  | decimal | integer | name | openParen => rfl
  | _ =>
      rw [hkind] at hjoins
      cases hjoins

end Next

end Due

/-- The tokens lead from what is due to what is due behind them, or else anything is. -/
def Passes (registry : Registry) (start finish : Due) (tokens : List Token) : Prop :=
  start.along registry (tokens.map Token.content) = some finish ∨
    start.along registry (tokens.map Token.content) = some .anything

section Passes

variable {registry : Registry} {start middle finish : Due}

theorem Passes.token {token : Token} (h : start.next registry token.content = some finish) :
    Passes registry start finish [token] := by
  left
  rw [List.map_singleton, Due.along_cons, h]
  rfl

theorem Passes.append {front back : List Token} (hfront : Passes registry start middle front)
    (hback : Passes registry middle finish back) :
    Passes registry start finish (front ++ back) := by
  unfold Passes
  rw [List.map_append, Due.along_append]
  rcases hfront with hfront | hfront <;> rw [hfront]
  · exact hback
  · exact .inr (Due.along_anything _)

theorem Passes.cons {token : Token} {tokens : List Token}
    (htoken : start.next registry token.content = some middle)
    (hrest : Passes registry middle finish tokens) :
    Passes registry start finish (token :: tokens) :=
  (Passes.token htoken).append hrest

/-- Behind a name that is no constant, anything is due. -/
theorem Head.along {tokens : List Token} {name : String} {nesting : Nat}
    (h : Head registry tokens name nesting) (depth : Nat) :
    (Due.operand depth).along registry (tokens.map Token.content) = some .anything := by
  induction h generalizing depth with
  | name hkind hconstant _ =>
      rw [List.map_singleton, Due.along_cons, Due.next_name depth hkind hconstant]
      rfl
  | group hopening _ _ ih =>
      rw [List.map_cons, List.map_append, Due.along_cons, Due.next_openParen depth hopening,
        Option.bind_some, Due.along_append, ih (depth + 1)]
      exact Due.along_anything _

/-- Whatever is derived leads from an operand to an operator. -/
theorem Derives.passes {symbol : Symbol} {tokens : List Token} {x : Float} {nesting : Nat}
    (h : Derives registry symbol tokens x nesting) (depth : Nat) :
    Passes registry (.operand depth) (.operator depth) tokens := by
  induction h generalizing depth with
  | number _ hkind _ => exact .token (Due.next_number depth hkind)
  | constant _ hkind hconstant => exact .token (Due.next_constant depth hkind (by simp [hconstant]))
  | group _ hopening hclosing _ ih =>
      have hinner := (ih (depth + 1)).append (.token (Due.next_closeParen depth hclosing))
      exact .cons (Due.next_openParen depth hopening) hinner
  | negation _ hminus _ ih => exact .cons (Due.next_minus depth hminus) (ih depth)
  | call hhead =>
      right
      rw [List.map_append, Due.along_append, hhead.along depth]
      exact Due.along_anything _
  | chain _ _ ih => exact ih depth
  | binary _ htoken _ _ ihleft ihright =>
      exact (ihleft depth).append (.cons (Due.next_operator depth htoken) (ihright depth))

end Passes

end Formula
