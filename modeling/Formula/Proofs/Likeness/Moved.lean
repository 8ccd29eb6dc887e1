import Formula.Proofs.Likeness.Basic

/-!
# Tokens in other places

An evaluation only looks at the kinds and texts of the tokens that it reads.
Where they stand shows in the positions of errors and nowhere else, and what
stands behind the tokens that are read does not show at all.
-/

namespace Formula

def Error.move (move : Nat → Nat) : Error → Error
  | .strayCharacter text position => .strayCharacter text (move position)
  | .unexpectedToken token position => .unexpectedToken token (move position)
  | .unclosedParenthesis position => .unclosedParenthesis (move position)
  | .notAFunction found position => .notAFunction found (move position)
  | error => error

theorem Error.move_id (error : Error) : error.move id = error := by
  cases error <;> rfl

/-- The second token is the first one, which there is to read in the text, moved. -/
structure Token.Moved (text : String) (move : Nat → Nat) (t u : Token) : Prop where
  mem : t ∈ (Scan.ofText text).sights
  content : t.content = u.content
  position : move t.position = u.position

def Likeness.moved (registry : Registry) (text : String) (move : Nat → Nat) :
    Likeness registry registry where
  token := Token.Moved text move
  number := Eq
  kind h := .inl (Token.kind_eq_of_content h.content)
  value {t u} h hkind := by
    have hend : t.kind ≠ .endOfInput := by
      rcases hkind with hkind | hkind <;> simp [hkind]
    obtain ⟨x, hx⟩ := Scan.exists_value text t (Scan.mem_of_mem_sights h.mem hend) hkind
    exact ⟨x, x, hx, Token.value_eq_of_content h.content ▸ hx, rfl⟩
  text h _ := Token.text_eq_of_content h.content
  constant {t _} _ _ := by
    cases registry.constant? t.text with
    | none => exact .none
    | some x => exact .some rfl
  function {t _} _ _ _ := by
    cases registry.function? t.text with
    | none => exact .none
    | some f => exact .some fun _ _ h => congrArg f.apply h
  negate h := congrArg _ h
  apply operator _ _ _ _ hleft hright := by rw [hleft, hright]

section Moved

variable {registry : Registry} {text : String} {move : Nat → Nat}

theorem Likeness.errors_moved {error other : Error}
    (h : (Likeness.moved registry text move).Errors error other) : other = error.move move := by
  cases h with
  | unexpectedToken h =>
      rw [Error.move, h.position, Token.display_eq_of_content h.content]
  | unclosedParenthesis h => rw [Error.move, h.position]
  | notAFunction h hnumber => rw [Error.move, h.position, hnumber]
  | unknownFunction | unresolvedName | nestedTooDeeply => rfl

/-- Formulas that go alike but for where their tokens stand have one value, or one error
but for its position. -/
theorem Likeness.eq_of_matched_moved {outcome found : Except Error Float}
    (h : Matched (Likeness.moved registry text move).number
      (Likeness.moved registry text move).Errors outcome found) :
    found = outcome.mapError (Error.move move) := by
  cases h with
  | ok hnumber =>
      cases hnumber
      rfl
  | error herror =>
      rw [errors_moved herror]
      rfl

end Moved

/-! ## Another text behind what is read -/

def Event.scanned? : Event → Option Token
  | .scanned token => some token
  | _ => none

namespace Run

variable {α : Type} {run : Run α}

def scanned (run : Run α) : List Token :=
  run.events.filterMap Event.scanned?

/-- Up to the end of a text, tokens are all that is read. -/
theorem reads_eq_scanned (h : ∀ position, Event.ended position ∉ run.events) :
    run.reads = run.scanned := by
  apply List.filterMap_congr
  intro event hmem
  cases event with
  | ended position => exact absurd hmem (h position)
  | _ => rfl

end Run

/-- Where evaluation fails before it has read to the end, and not at a stray character, it
fails alike on every text that starts with the tokens scanned. -/
theorem evaluateWithin_error_of_scanned (registry : Registry) (limit : Nat)
    {first second : String} {error : Error}
    (herror : evaluateWithin registry limit first = .error error)
    (hlexical : ∀ text position, error ≠ .strayCharacter text position)
    (hended : ∀ position, Event.ended position ∉ (run registry limit first).events)
    (hscanned : (run registry limit first).scanned <+: (Scan.ofText second).tokens) :
    evaluateWithin registry limit second = .error error := by
  have hread : (run registry limit first).reads <+: (Scan.ofText second).sights := by
    rw [Run.reads_eq_scanned hended]
    exact hscanned.trans (Scan.tokens_prefix_sights second)
  have halike : List.Forall₂ (Token.Moved first id) (run registry limit first).reads
      (run registry limit first).reads := by
    rw [List.forall₂_same]
    intro token hmem
    exact ⟨(reads_prefix_sights registry limit first).mem hmem, rfl, rfl⟩
  have hstray : Unstrayed (evaluateWithin registry limit first) := by
    intro text position heq
    rw [herror] at heq
    exact hlexical text position (Except.error.inj heq)
  have hmatched := (Likeness.moved registry first id).matched halike hread hstray
  rw [Likeness.eq_of_matched_moved hmatched, herror]
  exact congrArg _ error.move_id

/-- The second number of `f(2+3)` is not read behind, so a stray character may stand there. -/
theorem evaluateWithin_error_of_scanned_unclosed_call :
    evaluateWithin .empty 4 "f(2+3)" = .error (.unclosedParenthesis 3) ∧
      evaluateWithin .empty 4 "f(2+$" = .error (.unclosedParenthesis 3) := by
  have hfirst : evaluateWithin .empty 4 "f(2+3)" = .error (.unclosedParenthesis 3) := by
    decide +kernel
  refine ⟨hfirst, ?_⟩
  refine evaluateWithin_error_of_scanned .empty 4 hfirst (by simp) ?_ (by decide +kernel)
  intro position hmem
  have hnone : (run .empty 4 "f(2+3)").events.all
      (fun event => match event with | .ended _ => false | _ => true) = true := by
    decide +kernel
  exact absurd (List.all_eq_true.1 hnone _ hmem) (by simp)

/-! ## Other blanks -/

/-- The two tokens stand at one index of the texts, or are the ends of both. -/
inductive Counterparts (text other : String) : Token → Token → Prop
  | token (index : Nat) {t u : Token} (ht : (Scan.ofText text).tokens[index]? = some t)
      (hu : (Scan.ofText other).tokens[index]? = some u) : Counterparts text other t u
  | ending : Counterparts text other (.endOfInput text.utf8ByteSize)
      (.endOfInput other.utf8ByteSize)

/-- Positions are moved from each token of a text to its counterpart. -/
def Moves (text other : String) (move : Nat → Nat) : Prop :=
  ∀ t u, Counterparts text other t u → move t.position = u.position

section Counterparts

variable {text other : String} {tokens others : List Token}

theorem forall₂_counterparts {relation : Token → Token → Prop} (htext : tokenize text = .ok tokens)
    (hother : tokenize other = .ok others) (h : List.Forall₂ relation tokens others)
    (hend : relation (.endOfInput text.utf8ByteSize) (.endOfInput other.utf8ByteSize)) :
    List.Forall₂ (fun t u => Counterparts text other t u ∧ relation t u)
      (Scan.ofText text).sights (Scan.ofText other).sights := by
  have htokens : (Scan.ofText text).tokens = tokens := by rw [Scan.eq_of_tokenize htext]
  have hothers : (Scan.ofText other).tokens = others := by rw [Scan.eq_of_tokenize hother]
  have hpairs : List.Forall₂ (fun t u => Counterparts text other t u ∧ relation t u) tokens
      others := by
    rw [List.forall₂_iff_get] at h ⊢
    refine ⟨h.1, fun index ht hu => ⟨.token index ?_ ?_, h.2 index ht hu⟩⟩
    · rw [htokens]
      exact List.getElem?_eq_getElem ht
    · rw [hothers]
      exact List.getElem?_eq_getElem hu
  rw [Scan.sights_of_tokenize htext, Scan.sights_of_tokenize hother]
  exact List.rel_append hpairs (.cons ⟨.ending, hend⟩ .nil)

/-- No two tokens share a position, so counterparts are told by it. -/
theorem Counterparts.position_unique (htext : tokenize text = .ok tokens) {t u t' u' : Token}
    (h : Counterparts text other t u) (h' : Counterparts text other t' u')
    (hposition : t.position = t'.position) : u.position = u'.position := by
  have hlast := Scan.position_lt_of_tokenize htext
  cases h with
  | ending =>
      cases h' with
      | ending => rfl
      | token index ht hu =>
          have hlt := hlast t' (List.mem_of_getElem? ht)
          exact absurd hposition (Nat.ne_of_gt hlt)
  | token index ht hu =>
      cases h' with
      | ending =>
          have hlt := hlast t (List.mem_of_getElem? ht)
          exact absurd hposition (Nat.ne_of_lt hlt)
      | token index' ht' hu' =>
          have hindex : index = index' := by
            have hpairwise := List.pairwise_iff_getElem.1 (Scan.pairwise_position text)
            obtain ⟨hbound, rfl⟩ := List.getElem?_eq_some_iff.1 ht
            obtain ⟨hbound', rfl⟩ := List.getElem?_eq_some_iff.1 ht'
            rcases Nat.lt_trichotomy index index' with hlt | heq | hlt
            · exact absurd hposition (Nat.ne_of_lt (hpairwise _ _ hbound hbound' hlt))
            · exact heq
            · exact absurd hposition (Nat.ne_of_gt (hpairwise _ _ hbound' hbound hlt))
          rw [hindex, hu'] at hu
          rw [Option.some.inj hu]

theorem exists_moves (htext : tokenize text = .ok tokens) : ∃ move, Moves text other move := by
  let pairs := { pair : Token × Token // Counterparts text other pair.1 pair.2 }
  let start : pairs → Nat := fun pair => pair.1.1.position
  let finish : pairs → Nat := fun pair => pair.1.2.position
  have hfactors : finish.FactorsThrough start := fun pair pair' hposition =>
    pair.2.position_unique htext pair'.2 hposition
  exact ⟨Function.extend start finish id, fun t u h => hfactors.extend_apply id ⟨(t, u), h⟩⟩

end Counterparts

/-- Formulas of tokens with the same kinds and texts have one value, or one error with its
position moved from a token of the first formula to its counterpart in the second. -/
theorem evaluateWithin_relaid (registry : Registry) (limit : Nat) {first second : String}
    {tokens others : List Token} (hfirst : tokenize first = .ok tokens)
    (hsecond : tokenize second = .ok others)
    (hcontents : tokens.map Token.content = others.map Token.content) :
    (∃ move, Moves first second move) ∧
      ∀ move, Moves first second move →
        evaluateWithin registry limit second =
          (evaluateWithin registry limit first).mapError (Error.move move) := by
  refine ⟨exists_moves hfirst, ?_⟩
  intro move hmoves
  have hpairs : List.Forall₂ (fun t u => t.content = u.content) tokens others := by
    rw [← List.forall₂_eq_eq_eq, List.forall₂_map_left_iff, List.forall₂_map_right_iff] at hcontents
    exact hcontents
  have hsights := forall₂_counterparts hfirst hsecond hpairs rfl
  have halike : List.Forall₂ (Token.Moved first move) (Scan.ofText first).sights
      (Scan.ofText second).sights := by
    rw [List.forall₂_iff_get] at hsights ⊢
    refine ⟨hsights.1, fun index ht hu => ?_⟩
    obtain ⟨hcounterparts, hcontent⟩ := hsights.2 index ht hu
    exact ⟨List.get_mem _ _, hcontent, hmoves _ _ hcounterparts⟩
  exact Likeness.eq_of_matched_moved
    ((Likeness.moved registry first move).matched_of_tokenize hfirst halike)

/-- The end of `(2+3` is where its parenthesis is missed, and so is the end of `( 2 + 3 `. -/
theorem evaluateWithin_relaid_unclosed_group :
    evaluateWithin .empty 4 "(2+3" = .error (.unclosedParenthesis 4) ∧
      evaluateWithin .empty 4 "( 2 + 3 " = .error (.unclosedParenthesis 8) := by
  have hfirst : evaluateWithin .empty 4 "(2+3" = .error (.unclosedParenthesis 4) := by
    decide +kernel
  have htokens : tokenize "(2+3" =
      .ok [⟨.openParen, "(", 0⟩, ⟨.integer, "2", 1⟩, ⟨.plus, "+", 2⟩, ⟨.integer, "3", 3⟩] := by
    decide +kernel
  have hothers : tokenize "( 2 + 3 " =
      .ok [⟨.openParen, "(", 0⟩, ⟨.integer, "2", 2⟩, ⟨.plus, "+", 4⟩, ⟨.integer, "3", 6⟩] := by
    decide +kernel
  obtain ⟨⟨move, hmoves⟩, hrelaid⟩ := evaluateWithin_relaid .empty 4 htokens hothers rfl
  have hend : move 4 = 8 := hmoves _ _ .ending
  rw [hrelaid move hmoves, hfirst, ← hend]
  exact ⟨rfl, rfl⟩

end Formula
