import Formula.Proofs.Layout
import Formula.Proofs.Tree.Basic

/-!
# Scanned numbers have values

Whatever is scanned as a number is spelled like a numeral, and every numeral
denotes a number.
-/

namespace Formula

theorem Spelled.exists_numeral {kind : Kind} {text : List Char} (h : Spelled kind text)
    (hkind : kind.IsNumber) :
    ∃ numeral : Numeral, numeral.kind = kind ∧ numeral.characters = text := by
  cases h with
  | decimal hwhole hfraction => exact ⟨.decimal _ _ hwhole hfraction, rfl, rfl⟩
  | integer hdigits => exact ⟨.integer _ hdigits, rfl, rfl⟩
  | _ => simp [Kind.IsNumber] at hkind

theorem Laid.exists_value {before : Option Kind} {offset : Nat} {text : List Char}
    {tokens : List Token} (h : Laid before offset text tokens) :
    ∀ token ∈ tokens, token.kind.IsNumber → ∃ x, token.value = .ok x := by
  induction h with
  | ending => simp
  | token hgap hspelled happart hrest ih =>
      intro token hmem hkind
      cases hmem with
      | head =>
          obtain ⟨numeral, _, rfl⟩ := hspelled.exists_numeral hkind
          exact ⟨numeral.value, by rw [Token.value, numeral.parse_characters]; rfl⟩
      | tail _ hmem => exact ih token hmem hkind

/-- Every number found in a text has a value. -/
theorem Scan.exists_value (text : String) :
    ∀ token ∈ (ofText text).tokens, token.kind.IsNumber → ∃ x, token.value = .ok x := by
  obtain ⟨_, _, _, hlaid, _⟩ := laid_ofText text
  exact hlaid.exists_value

end Formula
