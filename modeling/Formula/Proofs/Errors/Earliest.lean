import Formula.Proofs.Errors.Refused

/-!
# Errors at the first token that fits nothing

A formula in which all names are constants is read as far as it can be the start
of a formula with a value.  What is read up to a token that is refused can be
completed: where an operand is due, by a number, and then by a parenthesis for
each one that is open.
-/

namespace Formula

/-- Some formula that has a value starts with the contents.  The end of a formula counts as its
last token, so contents that include it are all of the formula. -/
def Opens (registry : Registry) (contents : List (Kind × String)) : Prop :=
  ∃ text limit x, contents <+: (Scan.ofText text).sights.map Token.content ∧
    evaluateWithin registry limit text = .ok x

/-! ## Completions -/

namespace Due

variable {registry : Registry}

/-- Is an operand or an operator due? -/
def Unfinished : Due → Prop
  | .operand _ | .operator _ => True
  | .nothing | .anything => False

theorem Unfinished.next {due later : Due} (h : due.Unfinished) {content : Kind × String}
    (hend : content.1 ≠ .endOfInput)
    (hconstant : content.1 = .name → (registry.constant? content.2).isSome = true)
    (hnext : due.next registry content = some later) : later.Unfinished := by
  obtain ⟨kind, text⟩ := content
  cases due with
  | operand depth =>
      cases kind with
      | name =>
          rw [Due.next, if_pos (hconstant rfl)] at hnext
          cases hnext
          exact trivial
      | decimal | integer | minus | openParen =>
          cases hnext
          exact trivial
      | _ => cases hnext
  | operator depth =>
      cases kind with
      | endOfInput => exact absurd rfl hend
      | closeParen =>
          cases depth with
          | zero => cases hnext
          | succ depth =>
              cases hnext
              exact trivial
      | plus | minus | star | slash | caret =>
          cases hnext
          exact trivial
      | _ => cases hnext
  | nothing => cases hnext
  | anything => cases h

theorem Unfinished.along {due later : Due} (h : due.Unfinished) {contents : List (Kind × String)}
    (hend : ∀ content ∈ contents, content.1 ≠ .endOfInput)
    (hconstant : ∀ content ∈ contents, content.1 = .name →
      (registry.constant? content.2).isSome = true)
    (halong : due.along registry contents = some later) : later.Unfinished := by
  induction contents generalizing due with
  | nil =>
      cases halong
      exact h
  | cons content contents ih =>
      rw [along_cons, Option.bind_eq_some_iff] at halong
      obtain ⟨middle, hnext, hrest⟩ := halong
      have hmiddle := h.next (hend _ List.mem_cons_self) (hconstant _ List.mem_cons_self) hnext
      exact ih hmiddle (fun other hmem => hend other (List.mem_cons_of_mem _ hmem))
        (fun other hmem => hconstant other (List.mem_cons_of_mem _ hmem)) hrest

/-- Parentheses for those that are open. -/
def closings (depth : Nat) : List (Kind × String) :=
  List.replicate depth (.closeParen, ")")

def completion : Due → List (Kind × String)
  | .operand depth => (.integer, "0") :: closings depth
  | .operator depth => closings depth
  | .nothing | .anything => []

theorem along_closings (depth : Nat) :
    (operator depth).along registry (closings depth) = some (.operator 0) := by
  induction depth with
  | zero => rfl
  | succ depth ih => exact ih

theorem along_completion {due : Due} (h : due.Unfinished) :
    due.along registry due.completion = some (.operator 0) := by
  cases due with
  | operand depth => exact along_closings depth
  | operator depth => exact along_closings depth
  | nothing | anything => cases h

theorem mem_completion {due : Due} {content : Kind × String} (h : content ∈ due.completion) :
    content = (.integer, "0") ∨ content = (.closeParen, ")") := by
  cases due with
  | operand depth =>
      rcases List.mem_cons.1 h with hzero | hclosing
      · exact .inl hzero
      · exact .inr (List.eq_of_mem_replicate hclosing)
  | operator depth => exact .inr (List.eq_of_mem_replicate h)
  | nothing | anything => cases h

theorem spelled_of_mem_completion {due : Due} {content : Kind × String}
    (h : content ∈ due.completion) : Spelled content.1 content.2.toList := by
  rcases mem_completion h with rfl | rfl
  · exact .integer ⟨by simp, by simp⟩
  · exact .closeParen

theorem ne_name_of_mem_completion {due : Due} {content : Kind × String}
    (h : content ∈ due.completion) : content.1 ≠ .name := by
  rcases mem_completion h with rfl | rfl <;> simp

end Due

/-! ## Texts of given tokens -/

theorem Laid.exists_of_spelled {contents : List (Kind × String)}
    (h : ∀ content ∈ contents, Spelled content.1 content.2.toList) (before : Option Kind)
    (offset : Nat) :
    ∃ text tokens, Laid before offset text tokens ∧ tokens.map Token.content = contents := by
  induction contents generalizing before offset with
  | nil => exact ⟨[], [], .ending (by simp), rfl⟩
  | cons content contents ih =>
      obtain ⟨rest, tokens, hrest, hcontents⟩ :=
        ih (fun other hmem => h other (List.mem_cons_of_mem _ hmem)) (some content.1)
          (offset + byteLength [' '] + byteLength content.2.toList)
      have hgap : ∀ c ∈ [' '], Text.isBlank c = true := by simp; decide
      refine ⟨_, _, .token hgap (h content List.mem_cons_self) (by simp) hrest, ?_⟩
      rw [List.map_cons, hcontents, Token.content, String.ofList_toList]

theorem exists_tokenize_of_spelled {contents : List (Kind × String)}
    (h : ∀ content ∈ contents, Spelled content.1 content.2.toList) :
    ∃ text tokens, tokenize text = .ok tokens ∧ tokens.map Token.content = contents := by
  obtain ⟨text, tokens, hlaid, hcontents⟩ := Laid.exists_of_spelled h none 0
  refine ⟨String.ofList text, tokens, tokenize_of_laid ?_, hcontents⟩
  rw [String.toList_ofList]
  exact hlaid

section Opens

variable {registry : Registry} {contents : List (Kind × String)}

/-- What starts a formula with a value can be read. -/
theorem along_ne_none_of_opens (h : Opens registry contents) :
    (Due.operand 0).along registry contents ≠ none := by
  obtain ⟨text, limit, x, hprefix, hvalue⟩ := h
  rw [evaluateWithin_eq] at hvalue
  obtain ⟨stream, hread, hrest⟩ := bind_eq_ok.1 hvalue
  obtain ⟨⟨y, last⟩, hwhole, _⟩ := bind_eq_ok.1 hrest
  obtain ⟨tokens, nesting, length, hremainder, hderives, _⟩ :=
    exists_derives_of_outcome_whole hread hwhole
  rw [Lexer.remainder_ofText] at hremainder
  have hsights : (Scan.ofText text).sights = tokens ++ [.endOfInput length] := by
    rw [Scan.sights_of_kinds (Scan.kind_ne_endOfInput text), hremainder]
    rfl
  apply Due.along_ne_none_of_prefix hprefix
  rw [hsights, List.map_append, Due.along_append]
  rcases hderives.passes 0 with hpasses | hpasses <;> rw [hpasses, Option.bind_some]
  · exact nofun
  · rw [Due.along_anything]
    exact nofun

/-- Tokens that lead to an operator with no parenthesis open have a value. -/
theorem exists_value_of_along {text : String} {tokens : List Token}
    (htokens : tokenize text = .ok tokens)
    (hconstants : ∀ token ∈ tokens, token.kind = .name →
      (registry.constant? token.text).isSome = true)
    (halong : (Due.operand 0).along registry (tokens.map Token.content) = some (.operator 0)) :
    ∃ x, evaluateWithin registry (tokens.length + 1) text = .ok x := by
  have hreadable : (Due.operand 0).along registry ((Scan.ofText text).sights.map Token.content) ≠
      none := by
    rw [Scan.sights_of_tokenize htokens, List.map_append, Due.along_append, halong,
      Option.bind_some]
    exact nofun
  rcases evaluateWithin_ok_or_refused registry htokens hconstants (Nat.lt_succ_self _) with
    hvalue | ⟨error, front, token, _, _, hfront, due, hfrontAlong, hnext⟩
  · exact hvalue
  · have hnone := Due.along_concat_eq_none hfrontAlong hnext
    have hprefix := hfront.map Token.content
    rw [List.map_append, List.map_singleton] at hprefix
    exact absurd hnone (Due.along_ne_none_of_prefix hprefix hreadable)

/-- What can be read without names but constants is completed to a formula with a value. -/
theorem opens_of_along (hspelled : ∀ content ∈ contents, Spelled content.1 content.2.toList)
    (hconstants : ∀ content ∈ contents, content.1 = .name →
      (registry.constant? content.2).isSome = true)
    {due : Due} (halong : (Due.operand 0).along registry contents = some due) :
    Opens registry contents := by
  have hends : ∀ content ∈ contents, content.1 ≠ .endOfInput :=
    fun content hmem => (hspelled content hmem).kind_ne_endOfInput
  have hstart : (Due.operand 0).Unfinished := trivial
  have hunfinished := hstart.along hends hconstants halong
  have hall : ∀ content ∈ contents ++ due.completion, Spelled content.1 content.2.toList := by
    intro content hmem
    rcases List.mem_append.1 hmem with hmem | hmem
    · exact hspelled content hmem
    · exact Due.spelled_of_mem_completion hmem
  obtain ⟨text, tokens, htokens, hcontents⟩ := exists_tokenize_of_spelled hall
  have hnames : ∀ token ∈ tokens, token.kind = .name →
      (registry.constant? token.text).isSome = true := by
    intro token hmem hkind
    have hcontent : token.content ∈ contents ++ due.completion :=
      hcontents ▸ List.mem_map_of_mem hmem
    rcases List.mem_append.1 hcontent with hcontent | hcontent
    · exact hconstants token.content hcontent hkind
    · exact absurd hkind (Due.ne_name_of_mem_completion hcontent)
  have hwhole : (Due.operand 0).along registry (tokens.map Token.content) =
      some (.operator 0) := by
    rw [hcontents, Due.along_append, halong, Option.bind_some, Due.along_completion hunfinished]
  obtain ⟨x, hx⟩ := exists_value_of_along htokens hnames hwhole
  refine ⟨text, tokens.length + 1, x, ?_, hx⟩
  rw [Scan.sights_of_tokenize htokens, List.map_append, hcontents, List.append_assoc]
  exact List.prefix_append _ _

end Opens

/-- Where all names are constants, a formula has a value or is refused at its first token with
which no formula that has a value goes on. -/
theorem evaluateWithin_error_earliest (registry : Registry) {limit : Nat} {input : String}
    {tokens : List Token} (htokens : tokenize input = .ok tokens)
    (hconstants : ∀ token ∈ tokens, token.kind = .name →
      (registry.constant? token.text).isSome = true)
    (hlimit : tokens.length + 1 ≤ limit) :
    (∃ x, evaluateWithin registry limit input = .ok x) ∨
      ∃ error front token back, evaluateWithin registry limit input = .error error ∧
        tokens ++ [.endOfInput input.utf8ByteSize] = front ++ token :: back ∧
        error.Refuses token ∧ Opens registry (front.map Token.content) ∧
        ¬ Opens registry ((front ++ [token]).map Token.content) := by
  rcases evaluateWithin_ok_or_refused registry htokens hconstants hlimit with
    hvalue | ⟨error, front, token, herror, hrefuses, ⟨back, hback⟩, due, halong, hnext⟩
  · exact .inl hvalue
  · right
    rw [Scan.sights_of_tokenize htokens, List.append_assoc, List.singleton_append] at hback
    refine ⟨error, front, token, back, herror, hback.symm, hrefuses, ?_, ?_⟩
    · have hfront : front <+: tokens := by
        refine List.prefix_of_prefix_length_le ⟨_, hback⟩ (List.prefix_append _ _) ?_
        have hlength := congrArg List.length hback
        simp only [List.length_append, List.length_cons, List.length_nil] at hlength
        omega
      have hstands := Scan.stands input
      rw [Scan.eq_of_tokenize htokens] at hstands
      refine opens_of_along ?_ ?_ halong
      · intro content hmem
        obtain ⟨token, htoken, rfl⟩ := List.mem_map.1 hmem
        exact (hstands token (hfront.mem htoken)).1
      · intro content hmem
        obtain ⟨token, htoken, rfl⟩ := List.mem_map.1 hmem
        exact hconstants token (hfront.mem htoken)
    · intro hopens
      rw [List.map_append, List.map_singleton] at hopens
      exact along_ne_none_of_opens hopens (Due.along_concat_eq_none halong hnext)

/-- What comes before a token of `(2+3 4` can be completed, but no formula goes on with it. -/
theorem evaluateWithin_error_earliest_unclosed_group :
    ∃ error front token back, evaluateWithin .empty 6 "(2+3 4" = .error error ∧
      [⟨.openParen, "(", 0⟩, ⟨.integer, "2", 1⟩, ⟨.plus, "+", 2⟩, ⟨.integer, "3", 3⟩,
        ⟨.integer, "4", 5⟩, .endOfInput 6] = front ++ token :: back ∧
      error.Refuses token ∧ Opens .empty (front.map Token.content) ∧
      ¬ Opens .empty ((front ++ [token]).map Token.content) := by
  have htokens : tokenize "(2+3 4" = .ok [⟨.openParen, "(", 0⟩, ⟨.integer, "2", 1⟩,
      ⟨.plus, "+", 2⟩, ⟨.integer, "3", 3⟩, ⟨.integer, "4", 5⟩] := by
    decide +kernel
  have herror : evaluateWithin .empty 6 "(2+3 4" = .error (.unclosedParenthesis 5) := by
    decide +kernel
  rcases evaluateWithin_error_earliest .empty htokens (by simp) (Nat.le_refl 6) with
    ⟨x, hx⟩ | hrefused
  · rw [herror] at hx
    cases hx
  · exact hrefused

end Formula
