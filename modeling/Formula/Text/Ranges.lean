/-!
# Character classes given by code point ranges

A class of characters is stored as a list of inclusive code point ranges in
increasing order.  The lookup stops at the first range that starts beyond the
character, so a character near the beginning of the code space costs a few
comparisons whatever the length of the table.
-/

namespace Formula.Text

/-- Inclusive code point ranges. -/
abbrev Ranges := List (Nat × Nat)

namespace Ranges

def Increasing : Ranges → Prop
  | [] => True
  | [range] => range.1 ≤ range.2
  | range :: next :: rest =>
      range.1 ≤ range.2 ∧ range.2 < next.1 ∧ Increasing (next :: rest)

instance decidableIncreasing : (ranges : Ranges) → Decidable (Increasing ranges)
  | [] => isTrue trivial
  | [range] => inferInstanceAs (Decidable (range.1 ≤ range.2))
  | range :: next :: rest =>
      have := decidableIncreasing (next :: rest)
      inferInstanceAs
        (Decidable (range.1 ≤ range.2 ∧ range.2 < next.1 ∧ Increasing (next :: rest)))

/-- Does some range hold the code point?  The ranges are taken in order. -/
def covers : Ranges → Nat → Bool
  | [], _ => false
  | (first, last) :: rest, code =>
      if code < first then false
      else if code ≤ last then true
      else covers rest code

theorem lt_of_increasing_cons {range : Nat × Nat} {rest : Ranges}
    (hincreasing : Increasing (range :: rest)) :
    ∀ later ∈ rest, range.2 < later.1 := by
  induction rest generalizing range with
  | nil =>
      intro later hmem
      cases hmem
  | cons next rest ih =>
      obtain ⟨_, hlt, htail⟩ := hincreasing
      intro later hmem
      have hnext : next.1 ≤ next.2 := by
        cases rest with
        | nil => exact htail
        | cons _ _ => exact htail.1
      cases hmem with
      | head => exact hlt
      | tail _ hrest =>
          have := ih htail later hrest
          omega

theorem increasing_tail {range : Nat × Nat} {rest : Ranges}
    (hincreasing : Increasing (range :: rest)) :
    Increasing rest := by
  cases rest with
  | nil => trivial
  | cons _ _ => exact hincreasing.2.2

theorem covers_eq_true_iff {ranges : Ranges} (hincreasing : Increasing ranges) (code : Nat) :
    covers ranges code = true ↔ ∃ range ∈ ranges, range.1 ≤ code ∧ code ≤ range.2 := by
  induction ranges with
  | nil =>
      simp [covers]
  | cons range rest ih =>
      have hlater := lt_of_increasing_cons hincreasing
      have hrest := ih (increasing_tail hincreasing)
      unfold covers
      split
      · rename_i hlt
        simp only [Bool.false_eq_true, false_iff]
        rintro ⟨held, hmem, hlow, hhigh⟩
        cases hmem with
        | head => omega
        | tail _ hmem =>
            have hnonempty : range.1 ≤ range.2 := by
              cases rest with
              | nil => exact hincreasing
              | cons _ _ => exact hincreasing.1
            have := hlater held hmem
            omega
      · split
        · rename_i hlow hhigh
          simp only [true_iff]
          exact ⟨range, List.mem_cons_self, by omega, hhigh⟩
        · rename_i hlow hhigh
          rw [hrest]
          constructor
          · rintro ⟨held, hmem, hbounds⟩
            exact ⟨held, List.mem_cons_of_mem range hmem, hbounds⟩
          · rintro ⟨held, hmem, hbounds⟩
            cases hmem with
            | head => omega
            | tail _ hmem => exact ⟨held, hmem, hbounds⟩

end Ranges

end Formula.Text
