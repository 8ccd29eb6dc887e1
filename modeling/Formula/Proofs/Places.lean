import Formula.Proofs.Layout

/-!
# Where tokens stand in a text

Each token that is found in a text stands there at its position, and the
positions increase up to the place where reading ends.  So every position lies
between two characters, and no two tokens share one.
-/

namespace Formula

/-! ## What tokens are spelled like -/

theorem Kind.stopsBefore_nil (kind : Kind) : kind.StopsBefore [] := by
  cases kind <;> simp [StopsBefore, EndsRun]

theorem Spelled.kind_unique {first second : Kind} {text : List Char} (hfirst : Spelled first text)
    (hsecond : Spelled second text) : first = second := by
  have hone := Lexeme.ofText?_of_spelled hfirst first.stopsBefore_nil
  have hother := Lexeme.ofText?_of_spelled hsecond second.stopsBefore_nil
  rw [hone] at hother
  injection hother with heq
  injection heq

/-- A text that starts with a letter is a token only if it has nothing but letters. -/
theorem Spelled.isAlphabetic_of_head {kind : Kind} {c : Char} {rest : List Char}
    (h : Spelled kind (c :: rest)) (hletter : Text.isAlphabetic c = true) :
    ∀ d ∈ c :: rest, Text.isAlphabetic d = true := by
  obtain ⟨_, _, heq, _, _, _, hname⟩ := h.head
  cases heq
  obtain rfl := hname.1 hletter
  cases h with
  | name hletters => exact hletters.2

/-! ## Where tokens are laid out -/

namespace Laid

variable {before : Option Kind} {offset : Nat} {text : List Char} {tokens : List Token}

theorem stands (h : Laid before offset text tokens) : ∀ token ∈ tokens,
    Spelled token.kind token.text.toList ∧
      ∃ front back, text = front ++ token.text.toList ++ back ∧
        token.position = offset + byteLength front := by
  induction h with
  | ending => simp
  | @token _ offset gap text rest kind tokens _ hspelled _ _ ih =>
      intro token hmem
      cases hmem with
      | head =>
          rw [String.toList_ofList]
          exact ⟨hspelled, gap, rest, rfl, rfl⟩
      | tail _ hmem =>
          obtain ⟨hlater, front, back, rfl, hposition⟩ := ih token hmem
          refine ⟨hlater, gap ++ text ++ front, back, by simp, ?_⟩
          rw [hposition, byteLength_append, byteLength_append]
          omega

theorem position_lt (h : Laid before offset text tokens) :
    ∀ token ∈ tokens, token.position < offset + byteLength text := by
  intro token hmem
  obtain ⟨hspelled, front, back, rfl, hposition⟩ := h.stands token hmem
  obtain ⟨c, rest, htext, _⟩ := hspelled.head
  have hsize := c.utf8Size_pos
  rw [htext, byteLength_append, byteLength_append, byteLength]
  omega

theorem pairwise_position (h : Laid before offset text tokens) :
    tokens.Pairwise fun first second => first.position < second.position := by
  induction h with
  | ending => exact .nil
  | @token _ offset gap text rest kind tokens _ hspelled _ hrest ih =>
      refine .cons ?_ ih
      intro later hmem
      obtain ⟨c, more, rfl, _⟩ := hspelled.head
      have hsize := c.utf8Size_pos
      have hle := hrest.position_le later hmem
      rw [byteLength] at hle
      show offset + byteLength gap < later.position
      omega

end Laid

/-! ## Where tokens are found -/

/-- Where reading ends: behind the text, or before the character with which no
token starts. -/
def Ending.position : Ending → Nat
  | .clean position => position
  | .stray _ _ position => position

namespace Scan

theorem EndsBetween.position_eq {offset : Nat} {front back : List Char} {ending : Ending}
    (h : EndsBetween offset front back ending) :
    ending.position = offset + byteLength front := by
  cases h <;> rfl

theorem stands (input : String) : ∀ token ∈ (ofText input).tokens,
    Spelled token.kind token.text.toList ∧
      ∃ front back, input.toList = front ++ token.text.toList ++ back ∧
        token.position = byteLength front := by
  obtain ⟨front, back, hsplit, hlaid, _⟩ := laid_ofText input
  intro token hmem
  obtain ⟨hspelled, first, second, rfl, hposition⟩ := hlaid.stands token hmem
  rw [Nat.zero_add] at hposition
  refine ⟨hspelled, first, second ++ back, ?_, hposition⟩
  rw [hsplit, List.append_assoc]

theorem pairwise_position (input : String) :
    (ofText input).tokens.Pairwise fun first second => first.position < second.position := by
  obtain ⟨_, _, _, hlaid, _⟩ := laid_ofText input
  exact hlaid.pairwise_position

theorem position_lt_ending (input : String) : ∀ token ∈ (ofText input).tokens,
    token.position < (ofText input).ending.position := by
  obtain ⟨_, _, _, hlaid, hends⟩ := laid_ofText input
  rw [hends.position_eq]
  exact hlaid.position_lt

/-- A text without a stray character is read to its end. -/
theorem position_of_clean {input : String} {position : Nat}
    (h : (ofText input).ending = .clean position) : position = input.utf8ByteSize := by
  obtain ⟨front, back, hsplit, _, hends⟩ := laid_ofText input
  rw [h] at hends
  cases hends with
  | clean =>
      rw [List.append_nil] at hsplit
      rw [Nat.zero_add, ← hsplit, byteLength_eq_utf8ByteSize, String.ofList_toList]

/-- A text that is tokens all through is read to its end. -/
theorem eq_of_tokenize {text : String} {tokens : List Token}
    (h : tokenize text = .ok tokens) :
    ofText text = ⟨tokens, .clean text.utf8ByteSize⟩ := by
  unfold tokenize toExcept at h
  cases hscan : ofText text with
  | mk found ending =>
      rw [hscan] at h
      cases ending with
      | clean position =>
          cases h
          rw [position_of_clean (congrArg Scan.ending hscan)]
      | stray => cases h

theorem position_lt_of_tokenize {text : String} {tokens : List Token}
    (h : tokenize text = .ok tokens) :
    ∀ token ∈ (ofText text).tokens, token.position < text.utf8ByteSize := by
  intro token hmem
  have hlt := position_lt_ending text token hmem
  rw [eq_of_tokenize h] at hlt
  exact hlt

/-- A stray character stands in the text where it is reported. -/
theorem exists_split_of_stray {input : String} {cursor : Nat} {character : Char} {position : Nat}
    (h : (ofText input).ending = .stray cursor character position) :
    ∃ front back, input.toList = front ++ character :: back ∧ position = byteLength front := by
  obtain ⟨front, back, hsplit, _, hends⟩ := laid_ofText input
  rw [h] at hends
  cases hends with
  | stray => exact ⟨front, _, hsplit, Nat.zero_add _⟩

/-! ## Character boundaries -/

/-- The bytes of a front part of a text end between two characters. -/
theorem isValid_of_split {input : String} {front back : List Char}
    (h : input.toList = front ++ back) : String.Pos.Raw.IsValid input ⟨byteLength front⟩ := by
  rw [String.Pos.Raw.isValid_iff_exists_append]
  refine ⟨String.ofList front, String.ofList back, ?_, ?_⟩
  · rw [← String.ofList_append, ← h, String.ofList_toList]
  · rw [byteLength_eq_utf8ByteSize]
    rfl

theorem isValid_position {input : String} {token : Token} (h : token ∈ (ofText input).tokens) :
    String.Pos.Raw.IsValid input ⟨token.position⟩ := by
  obtain ⟨_, front, back, hsplit, hposition⟩ := stands input token h
  rw [List.append_assoc] at hsplit
  rw [hposition]
  exact isValid_of_split hsplit

theorem isValid_end (input : String) : String.Pos.Raw.IsValid input ⟨input.utf8ByteSize⟩ := by
  have hvalid := isValid_of_split (List.append_nil input.toList).symm
  rw [byteLength_eq_utf8ByteSize, String.ofList_toList] at hvalid
  exact hvalid

end Scan

end Formula
