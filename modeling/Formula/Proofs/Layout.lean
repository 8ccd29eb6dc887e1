import Formula.Proofs.Spelling

/-!
# How a text is laid out

A text is laid out as tokens if it consists of their texts in turn, with blanks
wherever they like and at least where two of them would run together.  A text
has at most one layout, and reading it finds that one.  If it has none, reading
stops at the first character with which no token starts, and the text before
that character is laid out as the tokens found so far.
-/

namespace Formula

def Kind.IsNumber (kind : Kind) : Prop :=
  kind = .decimal ∨ kind = .integer

/-- Two tokens that would run together if nothing stood between them. -/
def Kind.Fuses (first second : Kind) : Prop :=
  (first = .name ∧ second = .name) ∨ (first.IsNumber ∧ second.IsNumber)

/-- The text from a byte offset on is laid out as tokens with their positions.
The kind of the token that ends at the offset is given, if there is one. -/
inductive Laid : Option Kind → Nat → List Char → List Token → Prop
  | ending {before : Option Kind} {offset : Nat} {gap : List Char}
      (hgap : ∀ c ∈ gap, Text.isBlank c = true) : Laid before offset gap []
  | token {before : Option Kind} {offset : Nat} {gap text rest : List Char} {kind : Kind}
      {tokens : List Token} (hgap : ∀ c ∈ gap, Text.isBlank c = true)
      (hspelled : Spelled kind text)
      (happart : gap = [] → ∀ previous ∈ before, ¬ previous.Fuses kind)
      (hrest : Laid (some kind) (offset + byteLength gap + byteLength text) rest tokens) :
      Laid before offset (gap ++ text ++ rest)
        (⟨kind, String.ofList text, offset + byteLength gap⟩ :: tokens)

/-- No token starts with the character, and it is no blank. -/
def Startless (c : Char) : Prop :=
  Text.isBlank c = false ∧ c.isDigit = false ∧ Text.isAlphabetic c = false ∧
    c ∉ ['+', '-', '*', '/', '^', '(', ')']

/-- The token, found in the text from an offset on, is no integer that stands
right before a point and a digit. -/
def Token.Unbroken (offset : Nat) (text : List Char) (token : Token) : Prop :=
  token.kind = .integer → ∀ front digit back,
    text = front ++ token.text.toList ++ '.' :: digit :: back →
      token.position = offset + byteLength front → digit.isDigit = false

/-! ## Byte offsets -/

/-- Byte offsets count the bytes of the text as it is stored. -/
theorem byteLength_eq_utf8ByteSize (text : List Char) :
    byteLength text = (String.ofList text).utf8ByteSize := by
  induction text with
  | nil => rfl
  | cons c rest ih => simp [byteLength, ih, String.ofList_cons]

theorem eq_nil_of_byteLength_eq_zero {text : List Char} (h : byteLength text = 0) : text = [] := by
  cases text with
  | nil => rfl
  | cons c rest =>
      have hpos := c.utf8Size_pos
      simp only [byteLength] at h
      omega

/-- Of two beginnings of a text, the one with more bytes extends the other. -/
theorem exists_append_of_byteLength_le {first second front back : List Char}
    (h : first ++ second = front ++ back) (hle : byteLength first ≤ byteLength front) :
    ∃ middle, front = first ++ middle := by
  rcases List.append_eq_append_iff.mp h with ⟨middle, hfront, _⟩ | ⟨middle, hfirst, _⟩
  · exact ⟨middle, hfront⟩
  · rw [hfirst, byteLength_append] at hle
    have hnil : middle = [] := eq_nil_of_byteLength_eq_zero (by omega)
    exact ⟨[], by simp [hfirst, hnil]⟩

/-! ## What a token starts with -/

theorem RunOf.head_isDigit {digits : List Char} (h : RunOf Char.isDigit digits) :
    ∃ c rest, digits = c :: rest ∧ Text.isBlank c = false ∧ c ≠ '.' ∧ c.isDigit = true ∧
      Text.isAlphabetic c = false := by
  obtain ⟨c, rest, rfl⟩ := List.exists_cons_of_ne_nil h.1
  have hdigit := h.2 c List.mem_cons_self
  refine ⟨c, rest, rfl, ?_, ?_, hdigit, Text.isAlphabetic_of_isDigit hdigit⟩
  · cases hblank : Text.isBlank c with
    | false => rfl
    | true => rw [Text.isDigit_of_isBlank hblank] at hdigit; cases hdigit
  · rintro rfl
    cases hdigit

theorem Spelled.head {kind : Kind} {text : List Char} (h : Spelled kind text) :
    ∃ c rest, text = c :: rest ∧ Text.isBlank c = false ∧ c ≠ '.' ∧
      (c.isDigit = true ↔ kind.IsNumber) ∧ (Text.isAlphabetic c = true ↔ kind = .name) := by
  cases h with
  | @decimal whole fraction hwhole hfraction =>
      obtain ⟨c, rest, rfl, hblank, hpoint, hdigit, hletter⟩ := hwhole.head_isDigit
      exact ⟨c, rest ++ '.' :: fraction, rfl, hblank, hpoint, by simp [hdigit, Kind.IsNumber],
        by simp [hletter]⟩
  | integer hdigits =>
      obtain ⟨c, rest, rfl, hblank, hpoint, hdigit, hletter⟩ := hdigits.head_isDigit
      exact ⟨c, rest, rfl, hblank, hpoint, by simp [hdigit, Kind.IsNumber], by simp [hletter]⟩
  | name hletters =>
      obtain ⟨c, rest, rfl⟩ := List.exists_cons_of_ne_nil hletters.1
      have hletter := hletters.2 c List.mem_cons_self
      refine ⟨c, rest, rfl, ?_, ?_, ?_, by simp [hletter]⟩
      · cases hblank : Text.isBlank c with
        | false => rfl
        | true => rw [Text.isAlphabetic_of_isBlank hblank] at hletter; cases hletter
      · rintro rfl
        cases hletter
      · cases hdigit : c.isDigit with
        | false => simp [Kind.IsNumber]
        | true => rw [Text.isAlphabetic_of_isDigit hdigit] at hletter; cases hletter
  | _ =>
      refine ⟨_, [], rfl, rfl, by decide, ?_, ?_⟩
      · simp only [Kind.IsNumber]
        decide
      · decide

theorem Spelled.kind_ne_endOfInput {kind : Kind} {text : List Char} (h : Spelled kind text) :
    kind ≠ .endOfInput := by
  cases h <;> decide

/-- What follows a token in a layout does not make it longer. -/
theorem Laid.stopsBefore {kind : Kind} {offset : Nat} {text : List Char} {tokens : List Token}
    (h : Laid (some kind) offset text tokens) : kind.StopsBefore text := by
  have hblank : ∀ c rest, Text.isBlank c = true → kind.StopsBefore (c :: rest) := by
    intro c rest hc
    have hdigit : EndsRun Char.isDigit (c :: rest) := by
      intro _ hhead
      cases hhead
      exact Text.isDigit_of_isBlank hc
    have hletter : EndsRun Text.isAlphabetic (c :: rest) := by
      intro _ hhead
      cases hhead
      exact Text.isAlphabetic_of_isBlank hc
    have hpoint : c ≠ '.' := by
      rintro rfl
      cases hc
    cases kind <;> simp [Kind.StopsBefore, hdigit, hletter, hpoint]
  cases h with
  | ending hgap =>
      cases text with
      | nil => cases kind <;> simp [Kind.StopsBefore, EndsRun]
      | cons c rest => exact hblank c rest (hgap c List.mem_cons_self)
  | @token _ _ gap text rest next tokens hgap hspelled happart hrest =>
      cases gap with
      | cons c gap => exact hblank c _ (hgap c List.mem_cons_self)
      | nil =>
          have hfuses := happart rfl kind rfl
          obtain ⟨c, more, rfl, _, hpoint, hnumber, hname⟩ := hspelled.head
          have hdigit : kind.IsNumber → EndsRun Char.isDigit (c :: (more ++ rest)) := by
            rintro hkind _ ⟨⟩
            simpa using fun hc => hfuses (.inr ⟨hkind, hnumber.1 hc⟩)
          have hletter : kind = .name → EndsRun Text.isAlphabetic (c :: (more ++ rest)) := by
            rintro hkind _ ⟨⟩
            simpa using fun hc => hfuses (.inl ⟨hkind, hname.1 hc⟩)
          cases kind <;> simp_all [Kind.StopsBefore, Kind.IsNumber]

/-- A token that cannot be made longer does not run together with the next one. -/
theorem Spelled.not_fuses {previous kind : Kind} {text rest : List Char} (h : Spelled kind text)
    (hstop : previous.StopsBefore (text ++ rest)) : ¬ previous.Fuses kind := by
  obtain ⟨c, more, rfl, _, _, hnumber, hname⟩ := h.head
  rintro (⟨rfl, hkind⟩ | ⟨rfl | rfl, hkind⟩)
  · have hletter := hstop c rfl
    rw [hname.2 hkind] at hletter
    cases hletter
  · have hdigit := hstop c rfl
    rw [hnumber.2 hkind] at hdigit
    cases hdigit
  · have hdigit := hstop.1 c rfl
    rw [hnumber.2 hkind] at hdigit
    cases hdigit

theorem Laid.position_le {before : Option Kind} {offset : Nat} {text : List Char}
    {tokens : List Token} (h : Laid before offset text tokens) :
    ∀ token ∈ tokens, offset ≤ token.position := by
  induction h with
  | ending => simp
  | @token _ offset gap text _ _ tokens _ _ _ _ ih =>
      intro token hmem
      cases hmem with
      | head => exact Nat.le_add_right _ _
      | tail _ hmem =>
          have := ih token hmem
          omega

/-! ## One reading step -/

theorem Place.find_of_spelled {offset : Nat} {gap text rest : List Char} {kind : Kind}
    (hgap : ∀ c ∈ gap, Text.isBlank c = true) (hspelled : Spelled kind text)
    (hstop : kind.StopsBefore rest) :
    Place.find ⟨offset, gap ++ text ++ rest⟩ =
      .token ⟨kind, String.ofList text, offset + byteLength gap⟩
        ⟨offset + byteLength gap + byteLength text, rest⟩ := by
  obtain ⟨c, more, rfl, hblank, _⟩ := hspelled.head
  have hstart : EndsRun Text.isBlank (c :: (more ++ rest)) := by
    intro _ hhead
    cases hhead
    exact hblank
  have hlexeme := Lexeme.ofText?_of_spelled hspelled hstop
  simp only [List.cons_append] at hlexeme
  simp only [Place.find, Place.skipBlanks, List.append_assoc, List.cons_append,
    takeWhile_append_of_endsRun hgap hstart, dropWhile_append_of_endsRun hgap hstart, hlexeme]

theorem Place.find_of_blank {offset : Nat} {gap : List Char}
    (hgap : ∀ c ∈ gap, Text.isBlank c = true) :
    Place.find ⟨offset, gap⟩ = .ended ⟨offset + byteLength gap, []⟩ := by
  have hend : EndsRun Text.isBlank [] := by simp [EndsRun]
  have htake := takeWhile_append_of_endsRun hgap hend
  have hdrop := dropWhile_append_of_endsRun hgap hend
  rw [List.append_nil] at htake hdrop
  simp only [Place.find, Place.skipBlanks, htake, hdrop]

inductive Finds (place : Place) : Finding → Prop
  | token {gap text rest : List Char} {kind : Kind} (hgap : ∀ c ∈ gap, Text.isBlank c = true)
      (hspelled : Spelled kind text) (hstop : kind.StopsBefore rest)
      (hplace : place.rest = gap ++ text ++ rest) :
      Finds place (.token ⟨kind, String.ofList text, place.cursor + byteLength gap⟩
        ⟨place.cursor + byteLength gap + byteLength text, rest⟩)
  | ended (hgap : ∀ c ∈ place.rest, Text.isBlank c = true) :
      Finds place (.ended ⟨place.cursor + byteLength place.rest, []⟩)
  | stray {gap rest : List Char} {c : Char} (hgap : ∀ c ∈ gap, Text.isBlank c = true)
      (hstartless : Startless c) (hplace : place.rest = gap ++ c :: rest) :
      Finds place (.stray c (place.cursor + byteLength gap))

theorem startless_of_ofText? {c : Char} {rest : List Char} (hblank : Text.isBlank c = false)
    (h : Lexeme.ofText? (c :: rest) = none) : Startless c := by
  simp only [Lexeme.ofText?] at h
  by_cases hdigit : c.isDigit = true
  · rw [if_pos hdigit] at h
    cases h
  · rw [if_neg hdigit] at h
    by_cases hletter : Text.isAlphabetic c = true
    · rw [if_pos hletter] at h
      cases h
    · rw [if_neg hletter] at h
      refine ⟨hblank, by simpa using hdigit, by simpa using hletter, ?_⟩
      intro hmem
      simp only [List.mem_cons, List.not_mem_nil, or_false] at hmem
      rcases hmem with rfl | rfl | rfl | rfl | rfl | rfl | rfl <;> cases h

theorem Place.finds (place : Place) : Finds place place.find := by
  have hsplit := List.takeWhile_append_dropWhile (p := Text.isBlank) (l := place.rest)
  have hgap : ∀ c ∈ place.rest.takeWhile Text.isBlank, Text.isBlank c = true :=
    fun _ => List.mem_takeWhile_imp
  have hstart := endsRun_dropWhile Text.isBlank place.rest
  unfold Place.find Place.skipBlanks
  cases hrest : place.rest.dropWhile Text.isBlank with
  | nil =>
      rw [hrest, List.append_nil] at hsplit
      rw [hsplit] at hgap ⊢
      exact .ended hgap
  | cons c rest =>
      rw [hrest] at hsplit hstart
      have hblank : Text.isBlank c = false := hstart c rfl
      simp only
      cases hlexeme : Lexeme.ofText? (c :: rest) with
      | none => exact .stray hgap (startless_of_ofText? hblank hlexeme) hsplit.symm
      | some lexeme =>
          obtain ⟨happend, hspelled, hstop⟩ := Lexeme.ofText?_eq_some_iff.1 hlexeme
          exact .token hgap hspelled hstop (by rw [List.append_assoc, happend, hsplit])

/-! ## Reading a whole text -/

namespace Scan

theorem ofPlace_of_token {place after : Place} {token : Token}
    (h : place.find = .token token after) :
    ofPlace place = ⟨token :: (ofPlace after).tokens, (ofPlace after).ending⟩ := by
  rw [ofPlace]
  split <;> rename_i hfind <;> rw [h] at hfind <;> cases hfind
  rfl

theorem ofPlace_of_ended {place after : Place} (h : place.find = .ended after) :
    ofPlace place = ⟨[], .clean after.cursor⟩ := by
  rw [ofPlace]
  split <;> rename_i hfind <;> rw [h] at hfind <;> cases hfind
  rfl

theorem ofPlace_of_stray {place : Place} {c : Char} {position : Nat}
    (h : place.find = .stray c position) :
    ofPlace place = ⟨[], .stray place.cursor c position⟩ := by
  rw [ofPlace]
  split <;> rename_i hfind <;> rw [h] at hfind <;> cases hfind
  rfl

/-- A text that is laid out as tokens is read as these. -/
theorem ofPlace_of_laid {before : Option Kind} {offset : Nat} {text : List Char}
    {tokens : List Token} (h : Laid before offset text tokens) :
    ofPlace ⟨offset, text⟩ = ⟨tokens, .clean (offset + byteLength text)⟩ := by
  induction h with
  | ending hgap => exact ofPlace_of_ended (Place.find_of_blank hgap)
  | token hgap hspelled happart hrest ih =>
      rw [ofPlace_of_token (Place.find_of_spelled hgap hspelled hrest.stopsBefore), ih]
      simp only [byteLength_append, Nat.add_assoc]

/-- How reading ends between two parts of a text. -/
inductive EndsBetween (offset : Nat) (front : List Char) : List Char → Ending → Prop
  | clean : EndsBetween offset front [] (.clean (offset + byteLength front))
  | stray {c : Char} {after : List Char} (cursor : Nat) (hstartless : Startless c) :
      EndsBetween offset front (c :: after) (.stray cursor c (offset + byteLength front))

theorem EndsBetween.append {offset : Nat} {first second back : List Char} {ending : Ending}
    (h : EndsBetween (offset + byteLength first) second back ending) :
    EndsBetween offset (first ++ second) back ending := by
  cases h with
  | clean =>
      rw [Nat.add_assoc, ← byteLength_append]
      exact .clean
  | stray cursor hstartless =>
      rw [Nat.add_assoc, ← byteLength_append]
      exact .stray cursor hstartless

/-- The text up to where reading ends is laid out as the tokens that are read. -/
theorem laid_ofPlace (place : Place) (before : Option Kind)
    (hbefore : ∀ kind ∈ before, kind.StopsBefore place.rest) :
    ∃ front back, place.rest = front ++ back ∧
      Laid before place.cursor front (ofPlace place).tokens ∧
      EndsBetween place.cursor front back (ofPlace place).ending := by
  induction place using ofPlace.induct generalizing before with
  | case1 place token after hfind _ ih =>
      rw [ofPlace_of_token hfind]
      have hfinds := place.finds
      rw [hfind] at hfinds
      cases hfinds with
      | @token gap text rest kind hgap hspelled hstop hplace =>
          obtain ⟨front, back, hrest, hlaid, hends⟩ := ih (some kind) (by simpa using hstop)
          refine ⟨gap ++ text ++ front, back, ?_, ?_, ?_⟩
          · rw [hplace, List.append_assoc _ front, ← hrest]
          · refine .token hgap hspelled ?_ hlaid
            rintro rfl previous hmem
            exact hspelled.not_fuses (hplace ▸ hbefore previous hmem)
          · refine .append ?_
            simpa only [byteLength_append, Nat.add_assoc] using hends
  | case2 place after hfind =>
      rw [ofPlace_of_ended hfind]
      have hfinds := place.finds
      rw [hfind] at hfinds
      cases hfinds with
      | ended hgap => exact ⟨place.rest, [], by simp, .ending hgap, .clean⟩
  | case3 place c position hfind =>
      rw [ofPlace_of_stray hfind]
      have hfinds := place.finds
      rw [hfind] at hfinds
      cases hfinds with
      | @stray gap rest _ hgap hstartless hplace =>
          exact ⟨gap, c :: rest, hplace, .ending hgap, .stray _ hstartless⟩

/-- No integer is read where a decimal could be. -/
theorem unbroken_ofPlace (place : Place) :
    ∀ token ∈ (ofPlace place).tokens, token.Unbroken place.cursor place.rest := by
  induction place using ofPlace.induct with
  | case1 place token after hfind _ ih =>
      rw [ofPlace_of_token hfind]
      have hfinds := place.finds
      rw [hfind] at hfinds
      cases hfinds with
      | @token gap text rest kind hgap hspelled hstop hplace =>
          intro token hmem hkind front digit back hfront hposition
          cases hmem with
          | head =>
              simp only [Nat.add_left_cancel_iff] at hposition
              simp only [String.toList_ofList, hplace, List.append_assoc] at hfront
              obtain ⟨middle, rfl⟩ := exists_append_of_byteLength_le hfront (by omega)
              have hnil : middle = [] := by
                apply eq_nil_of_byteLength_eq_zero
                rw [byteLength_append] at hposition
                omega
              simp only [hnil, List.append_nil, List.append_cancel_left_eq] at hfront
              subst hkind
              exact hstop.2 digit back hfront
          | tail _ hmem =>
              obtain ⟨_, _, _, hlaid, _⟩ := laid_ofPlace
                ⟨place.cursor + byteLength gap + byteLength text, rest⟩ none (by simp)
              have hle := hlaid.position_le token hmem
              rw [hplace, List.append_assoc front] at hfront
              obtain ⟨middle, rfl⟩ := exists_append_of_byteLength_le hfront (by
                rw [byteLength_append]
                simp only at hle
                omega)
              simp only [List.append_assoc, List.append_cancel_left_eq] at hfront
              refine ih token hmem hkind middle digit back ?_ ?_
              · simpa using hfront
              · simp only [byteLength_append] at hposition
                simp only
                omega
  | case2 place after hfind => simp [ofPlace_of_ended hfind]
  | case3 place c position hfind => simp [ofPlace_of_stray hfind]

end Scan

theorem Laid.kind_ne_endOfInput {before : Option Kind} {offset : Nat} {text : List Char}
    {tokens : List Token} (h : Laid before offset text tokens) :
    ∀ token ∈ tokens, token.kind ≠ .endOfInput := by
  induction h with
  | ending => simp
  | token hgap hspelled happart hrest ih =>
      simpa using ⟨hspelled.kind_ne_endOfInput, ih⟩

namespace Scan

theorem laid_ofText (text : String) :
    ∃ front back, text.toList = front ++ back ∧ Laid none 0 front (ofText text).tokens ∧
      EndsBetween 0 front back (ofText text).ending :=
  laid_ofPlace (Place.start text) none (by simp)

/-- The end of a text is no token of it. -/
theorem kind_ne_endOfInput (text : String) :
    ∀ token ∈ (ofText text).tokens, token.kind ≠ .endOfInput := by
  obtain ⟨_, _, _, hlaid, _⟩ := laid_ofText text
  exact hlaid.kind_ne_endOfInput

end Scan

theorem tokenize_of_laid {text : String} {tokens : List Token}
    (h : Laid none 0 text.toList tokens) : tokenize text = .ok tokens := by
  simp only [tokenize, Scan.ofText, Place.start, Scan.ofPlace_of_laid h, Scan.toExcept]

/-- A text is read as the tokens that it is laid out as, of which there is at
most one list.  A text without a layout has one up to the first character with
which no token starts, and this character is the error. -/
theorem tokenize_finds_layout (text : String) :
    (∀ tokens, tokenize text = .ok tokens ↔ Laid none 0 text.toList tokens) ∧
    (∀ first second, Laid none 0 text.toList first → Laid none 0 text.toList second →
      first = second) ∧
    ((∀ tokens, ¬ Laid none 0 text.toList tokens) →
      ∃ front c back, text.toList = front ++ c :: back ∧ Startless c ∧
        tokenize text = .error (.strayCharacter c.toString (byteLength front)) ∧
        Laid none 0 front (Scan.ofText text).tokens ∧
        ∀ token ∈ (Scan.ofText text).tokens, token.Unbroken 0 text.toList) := by
  have hunbroken := Scan.unbroken_ofPlace (Place.start text)
  obtain ⟨front, back, hsplit, hlaid, hends⟩ := Scan.laid_ofText text
  refine ⟨?_, ?_, ?_⟩
  · intro tokens
    refine ⟨?_, tokenize_of_laid⟩
    intro htokens
    unfold tokenize Scan.toExcept at htokens
    generalize (Scan.ofText text).ending = ending at hends htokens
    cases hends with
    | clean =>
        cases htokens
        rw [hsplit, List.append_nil]
        exact hlaid
    | stray => cases htokens
  · intro first second hfirst hsecond
    have heq := (tokenize_of_laid hfirst).symm.trans (tokenize_of_laid hsecond)
    exact Except.ok.inj heq
  · intro hnone
    unfold tokenize Scan.toExcept
    generalize (Scan.ofText text).ending = ending at hends ⊢
    cases hends with
    | clean =>
        rw [hsplit, List.append_nil] at hnone
        exact (hnone _ hlaid).elim
    | @stray c after cursor hstartless =>
        exact ⟨front, c, after, hsplit, hstartless, by simp, hlaid, hunbroken⟩

/-- A point that no digit follows belongs to no number. -/
example : Scan.ofText "1.5 2. 3" =
    ⟨[⟨.decimal, "1.5", 0⟩, ⟨.integer, "2", 4⟩], .stray 5 '.' 5⟩ := by
  decide +kernel

end Formula
