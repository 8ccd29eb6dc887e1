import Formula.Proofs.Errors.Reported
import Formula.Proofs.Places

/-!
# Errors and the text

What an error reports is found in the text of the formula: where it says, and
nowhere behind a character with which no token starts.  So a formula that cannot
be read to its end has no value, and its error is at that character or before it.
-/

namespace Formula

/-! ## What errors say of a text -/

namespace Error

def position? : Error → Option Nat
  | .strayCharacter _ position => some position
  | .unexpectedToken _ position => some position
  | .unclosedParenthesis position => some position
  | .notAFunction _ position => some position
  | .unknownFunction _ | .unresolvedName _ | .nestedTooDeeply _ | .invalidLiteral _ => none

/-- The error is found before the bound, and is not about the end of the text. -/
def LiesBefore (bound : Nat) (error : Error) : Prop :=
  (∀ position, error.position? = some position → position < bound) ∧
    ∀ position, error ≠ .unexpectedToken "end of input" position

/-- What the error reports is found in the text. -/
def PointsInto (registry : Registry) (limit : Nat) (input : String) : Error → Prop
  | .strayCharacter text position =>
      ∃ front c back, input.toList = front ++ c :: back ∧ position = byteLength front ∧
        text = c.toString
  | .unexpectedToken text position =>
      text ≠ "-" ∧ text ≠ "(" ∧
        ((text = "end of input" ∧ position = input.utf8ByteSize) ∨
          ∃ token ∈ (Scan.ofText input).tokens, token.text = text ∧ token.position = position)
  | .unclosedParenthesis position =>
      (position = input.utf8ByteSize ∨
        ∃ token ∈ (Scan.ofText input).tokens, token.kind ≠ .closeParen ∧
          token.position = position) ∧
        ∃ opening ∈ (Scan.ofText input).tokens, opening.kind = .openParen ∧
          opening.position < position
  | .unknownFunction name =>
      (∃ token ∈ (Scan.ofText input).tokens, token.kind = .name ∧ token.text = name) ∧
        registry.constant? name = none ∧ registry.function? name = none
  | .notAFunction _ position =>
      ∃ front before opening back,
        (Scan.ofText input).tokens = front ++ before :: opening :: back ∧
          before.EndsNumber registry ∧ opening.kind = .openParen ∧ opening.position = position
  | .unresolvedName name =>
      (∃ token ∈ (Scan.ofText input).tokens, token.kind = .name ∧ token.text = name) ∧
        registry.constant? name = none
  | .nestedTooDeeply found => found = limit
  | .invalidLiteral _ => False

end Error

/-! ## What comes next -/

namespace Scan

variable {input : String} {taken : List Token} {token : Token}

/-- What comes next is the end of the text only if the text has been read to it. -/
theorem Shows.mem_or_end (h : (ofText input).Shows taken token) :
    token ∈ (ofText input).tokens ∨
      (token = .endOfInput input.utf8ByteSize ∧
        ∃ length, (ofText input).ending = .clean length) := by
  rcases h with ⟨later, htokens⟩ | ⟨_, length, hclean, rfl⟩
  · exact .inl (by simp [htokens])
  · obtain rfl := position_of_clean hclean
    exact .inr ⟨rfl, _, hclean⟩

/-- Tokens that have been taken stand before the one that comes next. -/
theorem Shows.position_lt (h : (ofText input).Shows taken token) :
    ∀ other ∈ taken, other.position < token.position := by
  intro other hmem
  rcases h with ⟨later, htokens⟩ | ⟨htokens, length, hclean, rfl⟩
  · have hpairs := pairwise_position input
    rw [htokens, List.pairwise_append] at hpairs
    exact hpairs.2.2 other hmem token List.mem_cons_self
  · have hlt := position_lt_ending input other (htokens ▸ hmem)
    rw [hclean] at hlt
    exact hlt

/-- A token is shown in a message as its text. -/
theorem display_of_mem (h : token ∈ (ofText input).tokens) : token.display = token.text := by
  rw [Token.display, if_neg (kind_ne_endOfInput input token h)]

/-- What is spelled like a token of a kind is of the kind. -/
theorem kind_of_text (h : token ∈ (ofText input).tokens) {kind : Kind}
    (hspelled : Spelled kind token.text.toList) : token.kind = kind :=
  (stands input token h).1.kind_unique hspelled

/-- No token reads like the end of the text in a message. -/
theorem text_ne_endOfInput (h : token ∈ (ofText input).tokens) : token.text ≠ "end of input" := by
  intro htext
  have hspelled := (stands input token h).1
  rw [htext] at hspelled
  have hblank := hspelled.isAlphabetic_of_head (by decide +kernel) ' ' (by decide)
  rw [Text.isAlphabetic_of_isBlank (by decide)] at hblank
  cases hblank

end Scan

/-! ## What is reported is found in the text -/

theorem Reported.pointsInto {registry : Registry} {limit : Nat} {input : String} {error : Error}
    (h : Reported registry limit (Scan.ofText input) error) :
    error.PointsInto registry limit input := by
  cases h with
  | @strayCharacter text position hending =>
      cases hscan : (Scan.ofText input).ending with
      | clean length =>
          rw [hscan] at hending
          cases hending
      | stray cursor character found =>
          obtain ⟨front, back, hsplit, hposition⟩ := Scan.exists_split_of_stray hscan
          rw [hscan] at hending
          cases hending
          exact ⟨front, character, back, hsplit, hposition, rfl⟩
  | @unexpectedToken taken token hshows hminus hopening =>
      rcases hshows.mem_or_end with hmem | ⟨rfl, _⟩
      · rw [Scan.display_of_mem hmem]
        refine ⟨?_, ?_, .inr ⟨token, hmem, rfl, rfl⟩⟩
        · intro htext
          exact hminus (Scan.kind_of_text hmem (htext ▸ .minus))
        · intro htext
          exact hopening (Scan.kind_of_text hmem (htext ▸ .openParen))
      · have hminus : "end of input" ≠ "-" := by decide
        have hopening : "end of input" ≠ "(" := by decide
        exact ⟨hminus, hopening, .inl ⟨rfl, rfl⟩⟩
  | @unclosedParenthesis taken opening token hmem hopening hshows hkind =>
      have hlt := hshows.position_lt opening hmem
      have hopeningMem : opening ∈ (Scan.ofText input).tokens := by
        rcases hshows with ⟨later, htokens⟩ | ⟨htokens, _⟩
        · rw [htokens]
          exact List.mem_append_left _ hmem
        · rw [htokens]
          exact hmem
      refine ⟨?_, opening, hopeningMem, hopening, hlt⟩
      rcases hshows.mem_or_end with htoken | ⟨rfl, _⟩
      · exact .inr ⟨token, htoken, hkind, rfl⟩
      · exact .inl rfl
  | unknownFunction hmem hwaits hfunction =>
      exact ⟨⟨_, hmem, hwaits.1, hwaits.2.1⟩, hwaits.2.2, hfunction⟩
  | @notAFunction front back before opening found htokens hends hopening =>
      exact ⟨front, before, opening, back, htokens, hends, hopening, rfl⟩
  | unresolvedName hmem hwaits => exact ⟨⟨_, hmem, hwaits.1, hwaits.2.1⟩, hwaits.2.2⟩
  | nestedTooDeeply => exact rfl

theorem Error.PointsInto.isValid {registry : Registry} {limit : Nat} {input : String}
    {error : Error} (h : error.PointsInto registry limit input) {position : Nat}
    (hposition : error.position? = some position) : String.Pos.Raw.IsValid input ⟨position⟩ := by
  cases error with
  | strayCharacter text found =>
      cases hposition
      obtain ⟨front, c, back, hsplit, rfl, _⟩ := h
      exact Scan.isValid_of_split hsplit
  | unexpectedToken text found =>
      cases hposition
      obtain ⟨_, _, ⟨_, rfl⟩ | ⟨token, hmem, _, rfl⟩⟩ := h
      · exact Scan.isValid_end input
      · exact Scan.isValid_position hmem
  | unclosedParenthesis found =>
      cases hposition
      obtain ⟨rfl | ⟨token, hmem, _, rfl⟩, _⟩ := h
      · exact Scan.isValid_end input
      · exact Scan.isValid_position hmem
  | notAFunction found place =>
      cases hposition
      obtain ⟨front, before, opening, back, htokens, _, _, rfl⟩ := h
      exact Scan.isValid_position (by simp [htokens])
  | _ => cases hposition

/-- Where reading does not come to the end of the text, nothing behind is reported. -/
theorem Reported.liesBefore {registry : Registry} {limit : Nat} {input : String} {error : Error}
    (h : Reported registry limit (Scan.ofText input) error) {first : Error}
    (hending : (Scan.ofText input).ending.error? = some first) :
    error = first ∨ error.LiesBefore (Scan.ofText input).ending.position := by
  have hnotClean : ∀ length, (Scan.ofText input).ending ≠ .clean length := by
    intro length hclean
    rw [hclean] at hending
    cases hending
  have hshown : ∀ {taken token}, (Scan.ofText input).Shows taken token →
      token ∈ (Scan.ofText input).tokens := by
    intro taken token hshows
    rcases hshows.mem_or_end with hmem | ⟨_, length, hclean⟩
    · exact hmem
    · exact (hnotClean length hclean).elim
  have hlt := Scan.position_lt_ending input
  cases h with
  | strayCharacter hfound =>
      rw [hending] at hfound
      exact .inl (Option.some.inj hfound).symm
  | @unexpectedToken taken token hshows =>
      have hmem := hshown hshows
      rw [Scan.display_of_mem hmem]
      refine .inr ⟨?_, ?_⟩
      · rintro _ ⟨⟩
        exact hlt token hmem
      · intro position heq
        exact Scan.text_ne_endOfInput hmem (Error.unexpectedToken.inj heq).1
  | @unclosedParenthesis taken opening token _ _ hshows =>
      refine .inr ⟨?_, nofun⟩
      rintro _ ⟨⟩
      exact hlt token (hshown hshows)
  | @notAFunction front back before opening found htokens =>
      refine .inr ⟨?_, nofun⟩
      rintro _ ⟨⟩
      exact hlt opening (by simp [htokens])
  | _ => exact .inr ⟨nofun, nofun⟩

/-! ## Evaluations -/

/-- What an error reports is found in the text, and its position is the start of a
character or the end of the text. -/
theorem evaluateWithin_error_pointsInto (registry : Registry) {limit : Nat} {input : String}
    {error : Error} (h : evaluateWithin registry limit input = .error error) :
    error.PointsInto registry limit input ∧
      ∀ position, error.position? = some position → String.Pos.Raw.IsValid input ⟨position⟩ := by
  have hmeets := meets_evaluateWithin registry limit input
  rw [h] at hmeets
  have hpoints := Reported.pointsInto hmeets
  exact ⟨hpoints, fun _ => hpoints.isValid⟩

/-- The call in `f(2+3)` has to be closed behind its argument `2`. -/
theorem evaluateWithin_error_pointsInto_unclosed_call :
    evaluateWithin .empty 4 "f(2+3)" = .error (.unclosedParenthesis 3) ∧
      (Error.unclosedParenthesis 3).PointsInto .empty 4 "f(2+3)" ∧
        ∀ position, (Error.unclosedParenthesis 3).position? = some position →
          String.Pos.Raw.IsValid "f(2+3)" ⟨position⟩ :=
  have h : evaluateWithin .empty 4 "f(2+3)" = .error (.unclosedParenthesis 3) := by decide +kernel
  ⟨h, evaluateWithin_error_pointsInto .empty h⟩

/-- A formula with a value can be read to its end.  The error of reading is that of
tokenizing; if there is one, evaluation ends with it, or with an error before it. -/
theorem evaluateWithin_agrees_with_tokenize (registry : Registry) (limit : Nat) (input : String) :
    (∀ x, evaluateWithin registry limit input = .ok x → ∃ tokens, tokenize input = .ok tokens) ∧
    (∀ text position,
      evaluateWithin registry limit input = .error (.strayCharacter text position) →
        tokenize input = .error (.strayCharacter text position)) ∧
    (∀ error, tokenize input = .error error →
      ∃ text position found, error = .strayCharacter text position ∧
        evaluateWithin registry limit input = .error found ∧
        (found = error ∨ found.LiesBefore position)) := by
  have hmeets := meets_evaluateWithin registry limit input
  refine ⟨?_, ?_, ?_⟩
  · intro x h
    rw [h] at hmeets
    exact ⟨_, hmeets⟩
  · intro text position h
    rw [h] at hmeets
    cases hmeets with
    | strayCharacter hending => exact Scan.toExcept_eq_error_iff.2 hending
  · intro error h
    have hending := Scan.toExcept_eq_error_iff.1 h
    cases hscan : (Scan.ofText input).ending with
    | clean length =>
        rw [hscan] at hending
        cases hending
    | stray cursor character position =>
        cases hvalue : evaluateWithin registry limit input with
        | ok x =>
            rw [hvalue, h] at hmeets
            cases hmeets
        | error found =>
            rw [hvalue] at hmeets
            have hfound := Reported.liesBefore hmeets hending
            rw [hscan] at hending hfound
            exact ⟨character.toString, position, found, (Option.some.inj hending).symm, rfl, hfound⟩

/-- No expression opens with `*`, so the stray `$` behind the next token is never read. -/
example : evaluateWithin .empty 1 "* 2 $" = .error (.unexpectedToken "*" 0) ∧
    tokenize "* 2 $" = .error (.strayCharacter "$" 4) := by
  decide +kernel

end Formula
