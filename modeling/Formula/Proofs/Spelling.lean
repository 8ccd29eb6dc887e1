import Formula.Scan
import Mathlib.Data.List.TakeWhile

/-!
# How tokens are spelled

The token in front of a text is the one that is spelled there and cannot be
made longer: names and numbers stop where no letter or digit follows, and an
integer does not stop before a point with a digit behind it.  No character can
be part of two of blanks, digits, letters and symbols.
-/

namespace Formula

/-! ## Classes of characters -/

theorem toNat_of_isDigit {c : Char} (h : c.isDigit = true) : 48 ≤ c.toNat ∧ c.toNat ≤ 57 := by
  simp only [Char.isDigit, Bool.and_eq_true, decide_eq_true_eq] at h
  exact h

namespace Text

theorem isDigit_of_isBlank {c : Char} (h : isBlank c = true) : c.isDigit = false := by
  obtain ⟨range, hmem, hlow, hhigh⟩ := (Ranges.covers_eq_true_iff increasing_blankRanges _).1 h
  have houtside : ∀ range ∈ blankRanges, range.2 < 48 ∨ 57 < range.1 := by decide
  cases hdigit : c.isDigit with
  | false => rfl
  | true =>
      have hbounds := toNat_of_isDigit hdigit
      have := houtside range hmem
      omega

theorem isAlphabetic_of_isBlank {c : Char} (h : isBlank c = true) : isAlphabetic c = false := by
  obtain ⟨range, hmem, hlow, hhigh⟩ := (Ranges.covers_eq_true_iff increasing_blankRanges _).1 h
  have houtside : ∀ range ∈ blankRanges, ∀ code ∈ List.range' range.1 (range.2 + 1 - range.1),
      alphabeticRanges.covers code = false := by
    decide +kernel
  exact houtside range hmem c.toNat (List.mem_range'_1.2 (by omega))

/-- The letters start at `A`, behind all digits and most symbols. -/
theorem isAlphabetic_of_lt {c : Char} (h : c.toNat < 65) : isAlphabetic c = false := by
  unfold isAlphabetic alphabeticRanges
  rw [Ranges.covers, if_pos h]

theorem isAlphabetic_of_isDigit {c : Char} (h : c.isDigit = true) : isAlphabetic c = false := by
  have := toNat_of_isDigit h
  exact isAlphabetic_of_lt (by omega)

end Text

/-! ## Runs of characters -/

def RunOf (p : Char → Bool) (text : List Char) : Prop :=
  text ≠ [] ∧ ∀ c ∈ text, p c = true

def EndsRun (p : Char → Bool) (rest : List Char) : Prop :=
  ∀ c ∈ rest.head?, p c = false

theorem endsRun_dropWhile (p : Char → Bool) (text : List Char) : EndsRun p (text.dropWhile p) := by
  intro c hc
  have hhead := List.head?_dropWhile_not p text
  rw [Option.mem_def.mp hc] at hhead
  exact hhead

theorem takeWhile_append_of_endsRun {p : Char → Bool} {run rest : List Char}
    (hrun : ∀ c ∈ run, p c = true) (hrest : EndsRun p rest) : (run ++ rest).takeWhile p = run := by
  rw [List.takeWhile_append_of_pos hrun]
  cases rest with
  | nil => simp
  | cons c rest =>
      have hc : p c = false := hrest c (by simp)
      simp [hc]

theorem dropWhile_append_of_endsRun {p : Char → Bool} {run rest : List Char}
    (hrun : ∀ c ∈ run, p c = true) (hrest : EndsRun p rest) : (run ++ rest).dropWhile p = rest := by
  rw [List.dropWhile_append_of_pos hrun]
  cases rest with
  | nil => simp
  | cons c rest =>
      have hc : p c = false := hrest c (by simp)
      simp [hc]

/-! ## The spelling of tokens -/

inductive Spelled : Kind → List Char → Prop
  | decimal {whole fraction : List Char} (hwhole : RunOf Char.isDigit whole)
      (hfraction : RunOf Char.isDigit fraction) : Spelled .decimal (whole ++ '.' :: fraction)
  | integer {digits : List Char} (hdigits : RunOf Char.isDigit digits) : Spelled .integer digits
  | plus : Spelled .plus ['+']
  | minus : Spelled .minus ['-']
  | star : Spelled .star ['*']
  | slash : Spelled .slash ['/']
  | caret : Spelled .caret ['^']
  | openParen : Spelled .openParen ['(']
  | closeParen : Spelled .closeParen [')']
  | name {letters : List Char} (hletters : RunOf Text.isAlphabetic letters) : Spelled .name letters

/-- What follows does not make a token of the kind longer. -/
def Kind.StopsBefore : Kind → List Char → Prop
  | .name, rest => EndsRun Text.isAlphabetic rest
  | .decimal, rest => EndsRun Char.isDigit rest
  | .integer, rest =>
      EndsRun Char.isDigit rest ∧
        ∀ digit back, rest = '.' :: digit :: back → digit.isDigit = false
  | _, _ => True

namespace Lexeme

theorem spelled_symbol {c : Char} {kind : Kind} (h : symbol? c = some kind) :
    Spelled kind [c] ∧ ∀ rest, kind.StopsBefore rest := by
  unfold symbol? at h
  split at h <;> cases h <;> exact ⟨by constructor, fun _ => trivial⟩

theorem ofText?_symbol {c : Char} {kind : Kind} (h : symbol? c = some kind) (rest : List Char) :
    ofText? (c :: rest) = some ⟨kind, [c], rest⟩ := by
  unfold symbol? at h
  split at h <;> cases h <;> rfl

theorem spelled_number {c : Char} (hdigit : c.isDigit = true) (rest : List Char) :
    Spelled (number (c :: rest)).kind (number (c :: rest)).text ∧
      (number (c :: rest)).kind.StopsBefore (number (c :: rest)).rest := by
  have hwhole : RunOf Char.isDigit ((c :: rest).takeWhile Char.isDigit) :=
    ⟨by simp [hdigit], fun _ => List.mem_takeWhile_imp⟩
  have hstop := endsRun_dropWhile Char.isDigit (c :: rest)
  unfold number
  split
  · rename_i digit back hback
    rw [hback] at hstop
    by_cases hfraction : digit.isDigit = true
    · rw [if_pos hfraction]
      exact ⟨.decimal hwhole ⟨by simp [hfraction], fun _ => List.mem_takeWhile_imp⟩,
        endsRun_dropWhile _ _⟩
    · rw [if_neg hfraction]
      refine ⟨.integer hwhole, hstop, ?_⟩
      intro other tail heq
      cases heq
      simpa using hfraction
  · rename_i hnopoint
    exact ⟨.integer hwhole, hstop, fun digit back heq => (hnopoint digit back heq).elim⟩

theorem number_integer {digits rest : List Char} (hdigits : RunOf Char.isDigit digits)
    (hstop : Kind.StopsBefore .integer rest) :
    number (digits ++ rest) = ⟨.integer, digits, rest⟩ := by
  obtain ⟨hend, hpoint⟩ := hstop
  unfold number
  rw [takeWhile_append_of_endsRun hdigits.2 hend, dropWhile_append_of_endsRun hdigits.2 hend]
  split
  · rename_i digit back
    rw [if_neg (by simp [hpoint digit back rfl])]
  · rfl

theorem number_decimal {whole fraction rest : List Char} (hwhole : RunOf Char.isDigit whole)
    (hfraction : RunOf Char.isDigit fraction) (hstop : Kind.StopsBefore .decimal rest) :
    number (whole ++ '.' :: fraction ++ rest) = ⟨.decimal, whole ++ '.' :: fraction, rest⟩ := by
  have hpoint : EndsRun Char.isDigit ('.' :: (fraction ++ rest)) := by
    intro c hc
    cases hc
    decide
  have htake := takeWhile_append_of_endsRun hfraction.2 hstop
  have hdrop := dropWhile_append_of_endsRun hfraction.2 hstop
  obtain ⟨digit, more, rfl⟩ := List.exists_cons_of_ne_nil hfraction.1
  have hdigit : digit.isDigit = true := hfraction.2 digit List.mem_cons_self
  unfold number
  rw [List.append_assoc, List.cons_append, takeWhile_append_of_endsRun hwhole.2 hpoint,
    dropWhile_append_of_endsRun hwhole.2 hpoint]
  simp only [List.cons_append] at htake hdrop ⊢
  rw [if_pos hdigit, htake, hdrop]

theorem spelled_of_ofText? {text : List Char} {lexeme : Lexeme} (h : ofText? text = some lexeme) :
    Spelled lexeme.kind lexeme.text ∧ lexeme.kind.StopsBefore lexeme.rest := by
  cases text with
  | nil => simp [ofText?] at h
  | cons c rest =>
      simp only [ofText?] at h
      by_cases hdigit : c.isDigit = true
      · rw [if_pos hdigit] at h
        cases h
        exact spelled_number hdigit rest
      · rw [if_neg hdigit] at h
        by_cases hletter : Text.isAlphabetic c = true
        · rw [if_pos hletter] at h
          cases h
          exact ⟨.name ⟨by simp [name, hletter], fun _ => List.mem_takeWhile_imp⟩,
            endsRun_dropWhile _ _⟩
        · rw [if_neg hletter] at h
          obtain ⟨kind, hkind, rfl⟩ := Option.map_eq_some_iff.mp h
          exact ⟨(spelled_symbol hkind).1, (spelled_symbol hkind).2 _⟩

theorem ofText?_of_spelled {kind : Kind} {text rest : List Char} (hspelled : Spelled kind text)
    (hstop : kind.StopsBefore rest) : ofText? (text ++ rest) = some ⟨kind, text, rest⟩ := by
  cases hspelled with
  | @decimal whole fraction hwhole hfraction =>
      have hnumber := number_decimal hwhole hfraction hstop
      obtain ⟨digit, more, rfl⟩ := List.exists_cons_of_ne_nil hwhole.1
      rw [← hnumber]
      exact if_pos (hwhole.2 digit List.mem_cons_self)
  | integer hdigits =>
      have hnumber := number_integer hdigits hstop
      obtain ⟨digit, more, rfl⟩ := List.exists_cons_of_ne_nil hdigits.1
      rw [← hnumber]
      exact if_pos (hdigits.2 digit List.mem_cons_self)
  | @name _ hletters =>
      have htake := takeWhile_append_of_endsRun hletters.2 hstop
      have hdrop := dropWhile_append_of_endsRun hletters.2 hstop
      obtain ⟨letter, more, rfl⟩ := List.exists_cons_of_ne_nil hletters.1
      have hletter := hletters.2 letter List.mem_cons_self
      have hdigit : letter.isDigit = false := by
        cases hdigit : letter.isDigit with
        | false => rfl
        | true => rw [Text.isAlphabetic_of_isDigit hdigit] at hletter; cases hletter
      simp only [List.cons_append] at htake hdrop ⊢
      simp [ofText?, name, hdigit, hletter, htake, hdrop]
  | _ => exact ofText?_symbol rfl rest

/-- The token in front of a text is spelled there and cannot be made longer. -/
theorem ofText?_eq_some_iff {text : List Char} {lexeme : Lexeme} :
    ofText? text = some lexeme ↔
      lexeme.text ++ lexeme.rest = text ∧ Spelled lexeme.kind lexeme.text ∧
        lexeme.kind.StopsBefore lexeme.rest := by
  constructor
  · intro h
    exact ⟨text_append_rest_of_ofText? h, spelled_of_ofText? h⟩
  · rintro ⟨rfl, hspelled, hstop⟩
    exact ofText?_of_spelled hspelled hstop

end Lexeme

end Formula
