import Formula.Proofs.Spelling
import Formula.Text.Quoted

/-!
# Quoted text is read back

Each character inside quotes is written so that it tells where it ends and what
stands for it, and only the closing quote is a quote on its own.  So quoted text
is found again in front of whatever follows it.
-/

namespace Formula.Text

/-! ## Code points -/

def codeValue (digits : List Char) : Nat :=
  digits.foldl (fun value digit => 16 * value + "0123456789abcdef".toList.idxOf digit) 0

theorem codeValue_concat (digits : List Char) {digit : Nat} (hlt : digit < 16) :
    codeValue (digits ++ [digit.digitChar]) = 16 * codeValue digits + digit := by
  have hdigit : ∀ digit < 16, "0123456789abcdef".toList.idxOf digit.digitChar = digit := by
    decide
  rw [codeValue, List.foldl_append, List.foldl_cons, List.foldl_nil, hdigit digit hlt]
  rfl

theorem codeValue_toDigits (n : Nat) : codeValue (Nat.toDigits 16 n) = n := by
  induction n using Nat.strongRecOn with
  | ind n ih =>
      rw [Nat.toDigits_eq_if (by decide)]
      split
      · rename_i hlt
        have hsingle := codeValue_concat [] hlt
        simpa [codeValue] using hsingle
      · rw [codeValue_concat _ (Nat.mod_lt n (by decide)), ih (n / 16) (by omega),
          Nat.div_add_mod]

theorem ne_brace_of_mem_toDigits (n : Nat) : ∀ digit ∈ Nat.toDigits 16 n, digit ≠ '\x7d' := by
  induction n using Nat.strongRecOn with
  | ind n ih =>
      rw [Nat.toDigits_eq_if (by decide)]
      split
      · intro digit hmem
        rw [List.mem_singleton.1 hmem]
        exact Nat.digitChar_ne '\x7d' (by decide)
      · intro digit hmem
        rcases List.mem_append.1 hmem with hmem | hmem
        · exact ih (n / 16) (by omega) digit hmem
        · rw [List.mem_singleton.1 hmem]
          exact Nat.digitChar_ne '\x7d' (by decide)

/-! ## Single characters -/

def unmark : Char → Char
  | '0' => '\x00'
  | 't' => '\t'
  | 'n' => '\n'
  | 'r' => '\r'
  | mark => mark

/-- The character that is written in front, and what follows it.  There is none in front of a
closing quote. -/
def unescape : List Char → Option (Char × List Char)
  | '\\' :: 'u' :: '\x7b' :: rest =>
      some (Char.ofNat (codeValue (rest.takeWhile (· ≠ '\x7d'))),
        (rest.dropWhile (· ≠ '\x7d')).drop 1)
  | '\\' :: mark :: rest => some (unmark mark, rest)
  | '"' :: _ => none
  | c :: rest => some (c, rest)
  | [] => none

theorem unescape_code (c : Char) (rest : List Char) :
    unescape ('\\' :: 'u' :: '\x7b' :: (Nat.toDigits 16 c.toNat ++ '\x7d' :: rest)) =
      some (c, rest) := by
  have hend : EndsRun (fun c => decide (c ≠ '\x7d')) ('\x7d' :: rest) := by simp [EndsRun]
  have hdigits : ∀ digit ∈ Nat.toDigits 16 c.toNat, decide (digit ≠ '\x7d') = true :=
    fun digit hmem => decide_eq_true (ne_brace_of_mem_toDigits c.toNat digit hmem)
  rw [unescape, takeWhile_append_of_endsRun hdigits hend, dropWhile_append_of_endsRun hdigits hend,
    codeValue_toDigits, Char.ofNat_toNat]
  rfl

theorem unescape_cons {c : Char} (hquote : c ≠ '"') (hbackslash : c ≠ '\\') (rest : List Char) :
    unescape (c :: rest) = some (c, rest) := by
  unfold unescape
  split <;> simp_all

/-- A character inside quotes is read back as it was. -/
theorem unescape_escape (c : Char) (rest : List Char) :
    unescape (escape c ++ rest) = some (c, rest) := by
  unfold escape
  split
  · next h =>
      subst h
      rfl
  split
  · next h =>
      subst h
      rfl
  split
  · next h =>
      subst h
      rfl
  split
  · next h =>
      subst h
      rfl
  split
  · next h => rcases h with rfl | rfl <;> rfl
  rename_i hplain
  rw [not_or] at hplain
  split
  · exact unescape_cons hplain.1 hplain.2 rest
  · simpa using unescape_code c rest

/-! ## Whole texts -/

theorem flatMap_escape_append_inj {first second front back : List Char}
    (h : first.flatMap escape ++ '"' :: front = second.flatMap escape ++ '"' :: back) :
    first = second ∧ front = back := by
  -- what is read back in front tells of both texts whether they end
  induction first generalizing second with
  | nil =>
      cases second with
      | nil => exact ⟨rfl, List.cons.inj h |>.2⟩
      | cons d second =>
          have hread := congrArg unescape h
          rw [List.flatMap_cons, List.append_assoc, unescape_escape] at hread
          cases hread
  | cons c first ih =>
      have hread := congrArg unescape h
      rw [List.flatMap_cons, List.append_assoc, unescape_escape] at hread
      cases second with
      | nil => cases hread
      | cons d second =>
          rw [List.flatMap_cons, List.append_assoc, unescape_escape] at hread
          injection hread with hread
          injection hread with hhead hrest
          obtain ⟨htail, hback⟩ := ih hrest
          exact ⟨by rw [hhead, htail], hback⟩

/-- Quoted text tells what it quotes and where it ends. -/
theorem quote_append_inj {first second front back : String}
    (h : quote first ++ front = quote second ++ back) : first = second ∧ front = back := by
  have hchars := congrArg String.toList h
  simp only [quote, String.toList_append, String.toList_ofList, List.cons_append,
    List.append_assoc, List.nil_append, List.cons.injEq, true_and] at hchars
  obtain ⟨htext, hrest⟩ := flatMap_escape_append_inj hchars
  exact ⟨String.toList_inj.1 htext, String.toList_inj.1 hrest⟩

theorem quote_inj {first second : String} (h : quote first = quote second) : first = second :=
  (quote_append_inj (congrArg (· ++ "") h)).1

end Formula.Text
