import Formula.Proofs.Delivery

/-!
# Lexers keep to their text

A lexer may be asked for its next token in two ways, in any order.  Whatever the
order, its cursor only moves forward, from one place between two characters to
another, and it returns the tokens of its text one after the other.  An error
moves nothing, so it is found again, except by `next?`, which yields it once.
-/

namespace Formula

def Token.stop (token : Token) : Nat :=
  token.position + token.text.utf8ByteSize

def BlankBetween (input : String) (start stop : Nat) : Prop :=
  ∃ front gap back, input.toList = front ++ gap ++ back ∧ byteLength front = start ∧
    start + byteLength gap = stop ∧ ∀ c ∈ gap, Text.isBlank c = true

/-- Nothing but blanks stands between tokens in a row, the first of which comes next behind a
byte offset. -/
def Spaced (input : String) : Nat → List Token → Prop
  | _, [] => True
  | start, token :: tokens =>
      BlankBetween input start token.position ∧ Spaced input token.stop tokens

theorem Spaced.of_prefix {input : String} {start : Nat} {front tokens : List Token}
    (hspaced : Spaced input start tokens) (hfront : front <+: tokens) :
    Spaced input start front := by
  induction front generalizing start tokens with
  | nil => trivial
  | cons token front ih =>
      obtain ⟨back, rfl⟩ := hfront
      exact ⟨hspaced.1, ih hspaced.2 (List.prefix_append front back)⟩

theorem Laid.spaced {before : Option Kind} {offset : Nat} {text : List Char} {tokens : List Token}
    (h : Laid before offset text tokens) {input : String} {front back : List Char}
    (hinput : input.toList = front ++ text ++ back) (hoffset : byteLength front = offset) :
    Spaced input offset tokens := by
  induction h generalizing front with
  | ending => trivial
  | @token _ offset gap text rest kind tokens hgap _ _ _ ih =>
      have hstop : Token.stop ⟨kind, String.ofList text, offset + byteLength gap⟩ =
          offset + byteLength gap + byteLength text := by
        rw [byteLength_eq_utf8ByteSize text]
        rfl
      refine ⟨⟨front, gap, text ++ rest ++ back, by simp [hinput], hoffset, rfl, hgap⟩, ?_⟩
      rw [hstop]
      have hfront : byteLength (front ++ gap ++ text) =
          offset + byteLength gap + byteLength text := by
        rw [byteLength_append, byteLength_append, hoffset]
      exact ih (by simp [hinput]) hfront

theorem Scan.spaced (input : String) : Spaced input 0 (ofText input).tokens := by
  obtain ⟨front, back, hsplit, hlaid, _⟩ := laid_ofText input
  exact @Laid.spaced _ _ _ _ hlaid input [] back hsplit rfl

namespace Lexer

/-! ## Calls -/

inductive Call where
  | nextToken
  | next
  deriving DecidableEq, Repr

/-- The answer to a call, which is a token, an error or nothing, and the lexer after it. -/
def reply (lexer : Lexer) : Call → Option (Except Error Token) × Lexer
  | .nextToken =>
      match lexer.nextToken with
      | (.ok token?, after) => (token?.map .ok, after)
      | (.error error, after) => (some (.error error), after)
  | .next => lexer.next?

def after (lexer : Lexer) (calls : List Call) : Lexer :=
  calls.foldl (fun lexer call => (lexer.reply call).2) lexer

def returned? : Option (Except Error Token) → Option Token
  | some (.ok token) => some token
  | _ => none

def returned (lexer : Lexer) : List Call → List Token
  | [] => []
  | call :: calls =>
      (returned? (lexer.reply call).1).toList ++ (lexer.reply call).2.returned calls

/-- All that a call can do. -/
theorem reply_eq (lexer : Lexer) (call : Call) :
    lexer.reply call =
      if call = .next ∧ lexer.failed = true then (none, lexer)
      else
        match lexer.place.find with
        | .token token place => (some (.ok token), { lexer with place := place })
        | .ended place => (none, { lexer with place := place })
        | .stray character position =>
            (some (.error (.strayCharacter character.toString position)),
              { lexer with failed := lexer.failed || call = .next }) := by
  cases call with
  | nextToken =>
      rw [if_neg (by simp)]
      unfold reply nextToken
      cases lexer.place.find <;> simp
  | next =>
      cases hfailed : lexer.failed with
      | true => exact if_pos hfailed
      | false =>
          rw [if_neg (by simp)]
          show lexer.next? = _
          rw [next?_of_not_failed hfailed]
          cases lexer.place.find <;> simp [hfailed]

/-! ## What a call keeps -/

/-- The lexer has read the text up to its cursor, and the tokens that it has returned are the
first ones of the text. -/
structure Keeps (input : String) (lexer : Lexer) (tokens : List Token) : Prop where
  split : ∃ front, input.toList = front ++ lexer.place.rest ∧ byteLength front = lexer.cursor
  scan : Scan.ofText input =
    ⟨tokens ++ (Scan.ofPlace lexer.place).tokens, (Scan.ofPlace lexer.place).ending⟩
  failed : lexer.failed = true → ∃ c position, lexer.place.find = .stray c position

section Keeps

variable {input : String} {lexer : Lexer} {tokens : List Token}

theorem keeps_ofText (input : String) : Keeps input (ofText input) [] :=
  ⟨⟨[], rfl, rfl⟩, rfl, nofun⟩

theorem Keeps.reply (h : Keeps input lexer tokens) (call : Call) :
    Keeps input (lexer.reply call).2 (tokens ++ (returned? (lexer.reply call).1).toList) := by
  obtain ⟨⟨front, hinput, hfront⟩, hscan, hfailed⟩ := h
  have hfinds := lexer.place.finds
  rw [reply_eq]
  split
  · exact ⟨⟨front, hinput, hfront⟩, by simpa [returned?] using hscan, hfailed⟩
  · cases hfind : lexer.place.find with
    | token token place =>
        rw [hfind] at hfinds
        rw [Scan.ofPlace_of_token hfind] at hscan
        refine ⟨?_, by simpa [returned?] using hscan, fun hfailing => ?_⟩
        · cases hfinds with
          | @token gap text rest kind hgap hspelled hstop hplace =>
              refine ⟨front ++ gap ++ text, by simp [hinput, hplace], ?_⟩
              rw [byteLength_append, byteLength_append, hfront]
              rfl
        · obtain ⟨c, position, hstray⟩ := hfailed hfailing
          rw [hfind] at hstray
          cases hstray
    | ended place =>
        rw [hfind] at hfinds
        rw [Scan.ofPlace_of_ended hfind] at hscan
        cases hfinds with
        | ended hgap =>
            refine ⟨⟨front ++ lexer.place.rest, by simp [hinput], ?_⟩, ?_, fun hfailing => ?_⟩
            · rw [byteLength_append, hfront]
              rfl
            · rw [Scan.ofPlace_end]
              simpa [returned?] using hscan
            · obtain ⟨c, position, hstray⟩ := hfailed hfailing
              rw [hfind] at hstray
              cases hstray
    | stray c position =>
        refine ⟨⟨front, hinput, hfront⟩, by simpa [returned?] using hscan, fun _ => ?_⟩
        exact ⟨c, position, hfind⟩

/-- However a lexer is called, it keeps to its text. -/
theorem Keeps.after (h : Keeps input lexer tokens) (calls : List Call) :
    Keeps input (lexer.after calls) (tokens ++ lexer.returned calls) := by
  induction calls generalizing lexer tokens with
  | nil =>
      rw [returned, List.append_nil]
      exact h
  | cons call calls ih =>
      have hrest := ih (h.reply call)
      rw [List.append_assoc] at hrest
      exact hrest

theorem Keeps.cursor_add_rest (h : Keeps input lexer tokens) :
    lexer.cursor + byteLength lexer.place.rest = input.utf8ByteSize := by
  obtain ⟨front, hinput, hfront⟩ := h.split
  rw [← hfront, ← byteLength_append, ← hinput, byteLength_eq_utf8ByteSize, String.ofList_toList]

theorem Keeps.isValid (h : Keeps input lexer tokens) :
    String.Pos.Raw.IsValid input ⟨lexer.cursor⟩ := by
  obtain ⟨front, hinput, hfront⟩ := h.split
  rw [← hfront]
  exact Scan.isValid_of_split hinput

/-- The tokens that are returned are the first ones that `next?` alone yields. -/
theorem Keeps.prefix_drain (h : Keeps input lexer tokens) : tokens <+: (ofText input).drain.1 := by
  have hdrain : (ofText input).drain.1 = (Scan.ofText input).tokens :=
    congrArg Prod.fst (drain_eq input (.start input))
  rw [hdrain, h.scan]
  exact List.prefix_append _ _

theorem Keeps.spaced (h : Keeps input lexer tokens) : Spaced input 0 tokens := by
  have hspaced := Scan.spaced input
  rw [h.scan] at hspaced
  exact hspaced.of_prefix (List.prefix_append _ _)

end Keeps

/-! ## What a call leaves to later ones -/

section Later

variable {lexer : Lexer}

theorem cursor_le_reply (lexer : Lexer) (call : Call) :
    lexer.cursor ≤ (lexer.reply call).2.cursor := by
  have hfinds := lexer.place.finds
  rw [reply_eq]
  split
  · exact Nat.le_refl _
  · cases hfind : lexer.place.find with
    | token token place =>
        rw [hfind] at hfinds
        cases hfinds with
        | token => exact Nat.le_trans (Nat.le_add_right _ _) (Nat.le_add_right _ _)
    | ended place =>
        rw [hfind] at hfinds
        cases hfinds with
        | ended => exact Nat.le_add_right _ _
    | stray => exact Nat.le_refl _

theorem cursor_eq_stop {call : Call} {token : Token} {next : Lexer}
    (h : lexer.reply call = (some (.ok token), next)) : next.cursor = token.stop := by
  have hfinds := lexer.place.finds
  rw [reply_eq] at h
  split at h
  · cases h
  · cases hfind : lexer.place.find with
    | token found place =>
        rw [hfind] at h hfinds
        cases h
        cases hfinds with
        | @token gap text rest kind =>
            rw [Token.stop, ← byteLength_eq_utf8ByteSize text]
            rfl
    | ended place => simp [hfind] at h
    | stray c position => simp [hfind] at h

/-- An error comes from a character with which no token starts, and moves nothing. -/
theorem stray_of_reply {call : Call} {error : Error} {next : Lexer}
    (h : lexer.reply call = (some (.error error), next)) :
    next.place = lexer.place ∧ (call = .next → next.failed = true) ∧
      ∃ c position, lexer.place.find = .stray c position ∧
        error = .strayCharacter c.toString position := by
  rw [reply_eq] at h
  split at h
  · cases h
  · cases hfind : lexer.place.find with
    | token found place => simp [hfind] at h
    | ended place => simp [hfind] at h
    | stray c position =>
        rw [hfind] at h
        cases h
        exact ⟨rfl, fun hcall => by simp [hcall], c, position, rfl, rfl⟩

/-- Where no token starts, no call gets any further. -/
theorem place_after_of_stray {c : Char} {position : Nat}
    (h : lexer.place.find = .stray c position) (calls : List Call) :
    (lexer.after calls).place = lexer.place := by
  induction calls generalizing lexer with
  | nil => rfl
  | cons call calls ih =>
      have hplace : (lexer.reply call).2.place = lexer.place := by
        rw [reply_eq, h]
        split <;> rfl
      have hrest := ih (hplace.symm ▸ h)
      exact hrest.trans hplace

/-- After `next?` has yielded an error, no call changes anything. -/
theorem after_of_failed {c : Char} {position : Nat} (h : lexer.place.find = .stray c position)
    (hfailed : lexer.failed = true) (calls : List Call) : lexer.after calls = lexer := by
  induction calls with
  | nil => rfl
  | cons call calls ih =>
      have hreply : (lexer.reply call).2 = lexer := by
        rw [reply_eq, h, hfailed]
        split
        · rfl
        · rw [Bool.true_or, ← hfailed]
      rw [after, List.foldl_cons, hreply]
      exact ih

theorem reply_of_rest_eq_nil (h : lexer.place.rest = []) (call : Call) :
    lexer.reply call = (none, lexer) := by
  obtain ⟨input, ⟨cursor, rest⟩, failed⟩ := lexer
  obtain rfl : rest = [] := h
  have hfind : Place.find ⟨cursor, []⟩ = .ended ⟨cursor, []⟩ := Place.find_of_blank (by simp)
  rw [reply_eq, hfind]
  split <;> rfl

theorem after_of_rest_eq_nil (h : lexer.place.rest = []) (calls : List Call) :
    lexer.after calls = lexer := by
  induction calls with
  | nil => rfl
  | cons call calls ih =>
      rw [after, List.foldl_cons, reply_of_rest_eq_nil h]
      exact ih

end Later

/-! ## Calls in a row -/

/-- The answer to a call holds for what is asked later: a token ends where the lexer goes on, an
error is found again where it was found, but yielded once, and nothing is left behind the end of
the text. -/
def Settles (input : String) (lexer : Lexer) (call : Call) :
    Option (Except Error Token) × Lexer → Prop
  | (some (.ok token), next) => next.cursor = token.stop
  | (some (.error error), next) =>
      next.cursor = lexer.cursor ∧
        (∀ calls, ((next.after calls).reply .nextToken).1 = some (.error error)) ∧
        (call = .next → ∀ calls, (next.after calls).reply .next = (none, next.after calls))
  | (none, next) =>
      next.cursor = input.utf8ByteSize →
        ∀ calls call, ((next.after calls).reply call).1 = none

theorem Keeps.settles {input : String} {lexer : Lexer} {tokens : List Token}
    (h : Keeps input lexer tokens) (call : Call) : Settles input lexer call (lexer.reply call) := by
  have hkeeps := h.reply call
  cases hreply : lexer.reply call with
  | mk answer next =>
      rw [hreply] at hkeeps
      match answer with
      | some (.ok token) => exact cursor_eq_stop hreply
      | some (.error error) =>
          obtain ⟨hplace, hfailed, c, position, hfind, rfl⟩ := stray_of_reply hreply
          rw [← hplace] at hfind
          refine ⟨congrArg Place.cursor hplace, fun calls => ?_, fun hcall calls => ?_⟩
          · rw [reply_eq, if_neg (by simp), place_after_of_stray hfind, hfind]
          · rw [after_of_failed hfind (hfailed hcall), reply_eq, if_pos ⟨rfl, hfailed hcall⟩]
      | none =>
          intro hend calls other
          have hlength : next.cursor + byteLength next.place.rest = input.utf8ByteSize :=
            hkeeps.cursor_add_rest
          have hrest : next.place.rest = [] := eq_nil_of_byteLength_eq_zero (by omega)
          rw [after_of_rest_eq_nil hrest, reply_of_rest_eq_nil hrest]

/-- However a lexer is called, it stands at a place in its text, up to which it has returned the
first tokens of the text, and each call moves it forward and settles what is asked later. -/
theorem keeps_to_text (input : String) (calls : List Call) :
    (∃ front, input.toList = front ++ ((ofText input).after calls).place.rest ∧
      byteLength front = ((ofText input).after calls).cursor) ∧
    String.Pos.Raw.IsValid input ⟨((ofText input).after calls).cursor⟩ ∧
    ((ofText input).after calls).cursor ≤ input.utf8ByteSize ∧
    (ofText input).returned calls <+: (ofText input).drain.1 ∧
    Spaced input 0 ((ofText input).returned calls) ∧
    ∀ call, ((ofText input).after calls).cursor ≤
        (((ofText input).after calls).reply call).2.cursor ∧
      Settles input ((ofText input).after calls) call
        (((ofText input).after calls).reply call) := by
  have hkeeps : Keeps input ((ofText input).after calls) ((ofText input).returned calls) :=
    (keeps_ofText input).after calls
  have hlength := hkeeps.cursor_add_rest
  refine ⟨hkeeps.split, hkeeps.isValid, by omega, hkeeps.prefix_drain, hkeeps.spaced, ?_⟩
  intro call
  exact ⟨cursor_le_reply _ call, hkeeps.settles call⟩

/-- Nothing behind a stray character is ever returned. -/
example : (ofText "1 # 2").returned [.next, .nextToken, .next, .next, .nextToken] =
    [⟨.integer, "1", 0⟩] := by
  decide +kernel

end Lexer

end Formula
