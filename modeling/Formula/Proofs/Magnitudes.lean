import Formula.Lexer
import Formula.Proofs.Arithmetic.Negation
import Formula.Proofs.Errors.Reported
import Formula.Proofs.Places

/-!
# Numbers in a text are magnitudes

A token has no sign: the minus before a number is a token of its own.  So the
number that a token denotes is a magnitude, at most the infinite one, and the
bits of magnitudes are read back as they are.
-/

namespace Formula

open Float.Model (Format UnpackedFloat)

namespace Numeric

/-! ## The bits of magnitudes -/

section Bits

variable {bits : UInt64}

theorem toNat_unpackExponent (bits : BitVec 64) :
    (@UnpackedFloat.unpackExponent .binary64 bits).toNat = bits.toNat / 2 ^ 52 % 2 ^ 11 := by
  simp [UnpackedFloat.unpackExponent, Nat.shiftRight_eq_div_pow]

theorem toNat_unpackMantissa (bits : BitVec 64) :
    (@UnpackedFloat.unpackMantissa .binary64 bits).toNat = bits.toNat % 2 ^ 52 := by
  simp [UnpackedFloat.unpackMantissa]

/-- Of all bits with the greatest exponent, the infinite ones come first. -/
theorem unpackMantissa_eq_zero (hle : bits.toNat ≤ infiniteBits)
    (hexponent : @UnpackedFloat.unpackExponent .binary64 bits.toBitVec = -1#11) :
    @UnpackedFloat.unpackMantissa .binary64 bits.toBitVec = 0#52 := by
  have hgreatest : bits.toNat / 2 ^ 52 % 2 ^ 11 = 2047 := by
    rw [← UInt64.toNat_toBitVec, ← toNat_unpackExponent, hexponent]
    rfl
  have hbound : bits.toNat ≤ 2047 * 2 ^ 52 := hle
  apply BitVec.eq_of_toNat_eq
  rw [toNat_unpackMantissa]
  show bits.toNat % 2 ^ 52 = 0
  omega

theorem toBits_ofBits_of_le (hle : bits.toNat ≤ infiniteBits) :
    (Float.ofBits bits).toBits = bits := by
  have hvalid : Format.Valid .binary64 bits.toBitVec :=
    ⟨fun hexponent hmantissa => absurd (unpackMantissa_eq_zero hle hexponent) hmantissa⟩
  exact congrArg Float.Model.toBits (pack_unpack ⟨bits, hvalid⟩)

theorem isNaN_ofBits_of_le (hle : bits.toNat ≤ infiniteBits) :
    (Float.ofBits bits).isNaN = false := by
  show UnpackedFloat.isNaN (.unpack .binary64 (Float.ofBits bits).toBits.toBitVec) = false
  rw [toBits_ofBits_of_le hle, UnpackedFloat.unpack]
  dsimp only
  split
  · rename_i hexponent
    rw [if_pos (unpackMantissa_eq_zero hle hexponent)]
    rfl
  · split
    · split <;> rfl
    · rfl

end Bits

/-! ## The magnitudes of decimals -/

namespace Decimal

theorem nearestBits_le (x : Decimal) : x.nearestBits ≤ infiniteBits := by
  unfold nearestBits
  split <;> exact Nat.min_le_right _ _

theorem toNat_nearestBits (x : Decimal) :
    (UInt64.ofNat x.nearestBits).toNat = x.nearestBits := by
  have hle := x.nearestBits_le
  have hlt : infiniteBits < UInt64.size := by decide
  exact UInt64.toNat_ofNat_of_lt (by omega)

/-- A decimal without a sign is read as a number without one. -/
theorem unsigned_toFloat (x : Decimal) :
    (x.toFloat false).isNaN = false ∧ (x.toFloat false).toBits.toNat < 2 ^ 63 := by
  have hbits : x.toFloat false = .ofBits (.ofNat x.nearestBits) := by
    simp [toFloat]
  have hle : (UInt64.ofNat x.nearestBits).toNat ≤ infiniteBits := by
    rw [toNat_nearestBits]
    exact x.nearestBits_le
  have hlt : infiniteBits < 2 ^ 63 := by decide
  rw [hbits, toBits_ofBits_of_le hle]
  exact ⟨isNaN_ofBits_of_le hle, by omega⟩

end Decimal

end Numeric

/-! ## The numbers of tokens -/

theorem Spelled.exists_unsigned {kind : Kind} {text : List Char} (h : Spelled kind text)
    (hkind : kind.IsNumber) (position : Nat) :
    ∃ x, (Token.mk kind (String.ofList text) position).value = .ok x ∧
      x.isNaN = false ∧ x.toBits.toNat < 2 ^ 63 := by
  obtain ⟨numeral, _, rfl⟩ := h.exists_numeral hkind
  refine ⟨numeral.value, ?_, numeral.toDecimal.unsigned_toFloat⟩
  rw [Token.value, numeral.parse_characters]
  rfl

theorem Lexer.spelled_of_nextToken {lexer after : Lexer} {token : Token}
    (h : lexer.nextToken = (.ok (some token), after)) : Spelled token.kind token.text.toList := by
  have hfinds := lexer.place.finds
  unfold nextToken at h
  cases hfind : lexer.place.find with
  | token found place =>
      rw [hfind] at h hfinds
      cases h
      cases hfinds with
      | token _ hspelled _ _ => simpa using hspelled
  | ended place => simp [hfind] at h
  | stray character position => simp [hfind] at h

/-- A text that is spelled as one token is read as that token. -/
theorem Lexer.nextToken_of_spelled {kind : Kind} {text : List Char} (h : Spelled kind text) :
    (ofText (String.ofList text)).nextToken =
      (.ok (some ⟨kind, String.ofList text, 0⟩),
        ⟨String.ofList text, ⟨byteLength text, []⟩, false⟩) := by
  have hfind := @Place.find_of_spelled 0 [] text [] kind (by simp) h kind.stopsBefore_nil
  rw [List.append_nil, List.nil_append] at hfind
  unfold nextToken ofText Place.start
  rw [String.toList_ofList, hfind]
  simp [byteLength]

theorem evaluateWithin_ne_invalidLiteral (registry : Registry) (limit : Nat) (input : String)
    (cause : Numeric.LiteralError) :
    evaluateWithin registry limit input ≠ .error (.invalidLiteral cause) := by
  intro h
  have hmeets := meets_evaluateWithin registry limit input
  rw [h] at hmeets
  cases hmeets

/-- Wherever a lexer stands, a number that it returns has a value, which is not NaN and has no
sign, though it may be infinite.  So no formula fails at the text of a number. -/
theorem Lexer.number_unsigned :
    (∀ (lexer after : Lexer) (token : Token), lexer.nextToken = (.ok (some token), after) →
      token.kind.IsNumber →
        ∃ x, token.value = .ok x ∧ x.isNaN = false ∧ x.toBits.toNat < 2 ^ 63) ∧
    ∀ registry limit input cause,
      evaluateWithin registry limit input ≠ .error (.invalidLiteral cause) := by
  refine ⟨?_, evaluateWithin_ne_invalidLiteral⟩
  intro lexer after token h hkind
  have hvalue := (spelled_of_nextToken h).exists_unsigned hkind token.position
  rw [String.ofList_toList] at hvalue
  exact hvalue

/-- The number of a one and 309 zeros is infinite. -/
theorem Lexer.number_unsigned_infinite :
    ∃ token after,
      (ofText (String.ofList ('1' :: List.replicate 309 '0'))).nextToken =
        (.ok (some token), after) ∧
      token.kind.IsNumber ∧ token.value = .ok (1 / 0) ∧
        ∃ x, token.value = .ok x ∧ x.isNaN = false ∧ x.toBits.toNat < 2 ^ 63 := by
  have hdigits : RunOf Char.isDigit ('1' :: List.replicate 309 '0') := by
    refine ⟨List.cons_ne_nil _ _, ?_⟩
    intro c hmem
    rcases List.mem_cons.1 hmem with rfl | hzero
    · rfl
    · rw [List.eq_of_mem_replicate hzero]
      rfl
  have hparse := Numeral.parse_characters (.integer _ hdigits)
  have hinfinite : (Numeral.integer _ hdigits).value = 1 / 0 := by
    show (Numeric.Decimal.mk
      (Numeric.Literal.digitsValue ('1' :: List.replicate 309 '0')) 0).toFloat false = 1 / 0
    decide +kernel
  rw [hinfinite] at hparse
  have hnext := nextToken_of_spelled (.integer hdigits)
  exact ⟨_, _, hnext, .inr rfl, congrArg (Except.mapError Error.invalidLiteral) hparse,
    number_unsigned.1 _ _ _ hnext (.inr rfl)⟩

end Formula
