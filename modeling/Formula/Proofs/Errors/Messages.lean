import Formula.Error
import Formula.Proofs.Quoted

/-!
# Messages tell errors apart

A message starts with words that no other kind of error has, and none of them
goes on to be the words of another kind.  Behind them, numbers end where no digit
follows, quoted text ends with its quote, and text that is not quoted comes last.
-/

namespace Formula

/-! ## Numbers in messages -/

/-- A number tells where it ends, if no digit follows it. -/
theorem toString_append_inj {m n : Nat} {front back : String}
    (hfront : EndsRun Char.isDigit front.toList) (hback : EndsRun Char.isDigit back.toList)
    (h : toString m ++ front = toString n ++ back) : m = n ∧ front = back := by
  have hisDigit : ∀ n, ∀ c ∈ Nat.toDigits 10 n, c.isDigit = true :=
    fun _ _ => Nat.isDigit_of_mem_toDigits (by decide) (by decide)
  have hchars := congrArg String.toList h
  rw [String.toList_append, String.toList_append, Nat.toString_eq_ofList_toDigits,
    Nat.toString_eq_ofList_toDigits, String.toList_ofList, String.toList_ofList] at hchars
  have hdigits := congrArg (List.takeWhile Char.isDigit) hchars
  have hrest := congrArg (List.dropWhile Char.isDigit) hchars
  rw [takeWhile_append_of_endsRun (hisDigit m) hfront,
    takeWhile_append_of_endsRun (hisDigit n) hback] at hdigits
  rw [dropWhile_append_of_endsRun (hisDigit m) hfront,
    dropWhile_append_of_endsRun (hisDigit n) hback] at hrest
  have hnumber := congrArg (Nat.ofDigitChars 10 · 0) hdigits
  simp only [Nat.ofDigitChars_ten_toDigits] at hnumber
  exact ⟨hnumber, String.toList_inj.1 hrest⟩

theorem toString_inj {m n : Nat} (h : toString m = toString n) : m = n :=
  (toString_append_inj (by simp [EndsRun]) (by simp [EndsRun]) (congrArg (· ++ "") h)).1

theorem Numeric.LiteralError.message_inj {first second : LiteralError}
    (h : first.message = second.message) : first = second := by
  cases first with
  | empty =>
      cases second with
      | empty => rfl
      | malformed => simp [message] at h
  | malformed =>
      cases second with
      | empty => simp [message] at h
      | malformed => rfl

namespace Error

open Text (quote)

/-! ## Headings -/

def heading : Error → String
  | .strayCharacter _ _ => "unexpected character "
  | .unexpectedToken _ _ => "unexpected token "
  | .unclosedParenthesis _ => "missing closing parenthesis at position "
  | .unknownFunction _ => "unrecognized function "
  | .notAFunction _ _ => "expected a function name before '(' at position "
  | .unresolvedName _ => "unresolved name "
  | .nestedTooDeeply _ => "expression nested deeper than "
  | .invalidLiteral _ => "invalid numeric literal: "

def details : Error → String
  | .strayCharacter text position => quote text ++ (" at position " ++ toString position)
  | .unexpectedToken token position => quote token ++ (" at position " ++ toString position)
  | .unclosedParenthesis position => toString position
  | .unknownFunction name => quote name
  | .notAFunction found position => toString position ++ (", found " ++ found)
  | .unresolvedName name => quote name
  | .nestedTooDeeply limit => toString limit ++ " levels"
  | .invalidLiteral cause => cause.message

theorem message_eq (error : Error) : error.message = error.heading ++ error.details := by
  unfold message heading details
  cases error with
  | strayCharacter | unexpectedToken | notAFunction | nestedTooDeeply =>
      simp only [String.append_assoc]
  | _ => rfl

def headings : List String :=
  [strayCharacter "" 0, unexpectedToken "" 0, unclosedParenthesis 0, unknownFunction "",
    notAFunction "" 0, unresolvedName "", nestedTooDeeply 0, invalidLiteral .empty].map heading

theorem heading_mem (error : Error) : error.heading ∈ headings := by
  cases error <;> simp [heading, headings]

theorem headings_apart :
    ∀ first ∈ headings, ∀ second ∈ headings, first.toList <+: second.toList → first = second := by
  decide

theorem heading_append_inj {first second : Error} {front back : String}
    (h : first.heading ++ front = second.heading ++ back) :
    first.heading = second.heading ∧ front = back := by
  have hchars := congrArg String.toList h
  rw [String.toList_append, String.toList_append] at hchars
  have hfirst : first.heading.toList <+: second.heading.toList ++ back.toList :=
    hchars ▸ List.prefix_append _ _
  have hsame : first.heading = second.heading := by
    rcases List.prefix_or_prefix_of_prefix hfirst (List.prefix_append _ _) with hprefix | hprefix
    · exact headings_apart _ first.heading_mem _ second.heading_mem hprefix
    · exact (headings_apart _ second.heading_mem _ first.heading_mem hprefix).symm
  rw [hsame] at h
  exact ⟨hsame, (String.append_right_inj _).1 h⟩

/-! ## Details -/

theorem quoted_position_inj {first second : String} {m n : Nat}
    (h : quote first ++ (" at position " ++ toString m) =
      quote second ++ (" at position " ++ toString n)) : first = second ∧ m = n := by
  obtain ⟨htext, hposition⟩ := Text.quote_append_inj h
  exact ⟨htext, toString_inj ((String.append_right_inj _).1 hposition)⟩

/-- Of errors with the same heading, the details tell which one it is. -/
theorem eq_of_details {first second : Error} (hheading : first.heading = second.heading)
    (h : first.details = second.details) : first = second := by
  cases first with
  | strayCharacter text position =>
      cases second with
      | strayCharacter =>
          obtain ⟨rfl, rfl⟩ := quoted_position_inj h
          rfl
      | _ => simp [heading] at hheading
  | unexpectedToken token position =>
      cases second with
      | unexpectedToken =>
          obtain ⟨rfl, rfl⟩ := quoted_position_inj h
          rfl
      | _ => simp [heading] at hheading
  | unclosedParenthesis position =>
      cases second with
      | unclosedParenthesis => rw [toString_inj h]
      | _ => simp [heading] at hheading
  | unknownFunction name =>
      cases second with
      | unknownFunction => rw [Text.quote_inj h]
      | _ => simp [heading] at hheading
  | notAFunction found position =>
      cases second with
      | notAFunction =>
          obtain ⟨rfl, hfound⟩ := toString_append_inj (by simp [EndsRun]) (by simp [EndsRun]) h
          rw [(String.append_right_inj _).1 hfound]
      | _ => simp [heading] at hheading
  | unresolvedName name =>
      cases second with
      | unresolvedName => rw [Text.quote_inj h]
      | _ => simp [heading] at hheading
  | nestedTooDeeply limit =>
      cases second with
      | nestedTooDeeply =>
          obtain ⟨rfl, _⟩ := toString_append_inj (by simp [EndsRun]) (by simp [EndsRun]) h
          rfl
      | _ => simp [heading] at hheading
  | invalidLiteral cause =>
      cases second with
      | invalidLiteral => rw [Numeric.LiteralError.message_inj h]
      | _ => simp [heading] at hheading

/-- Two errors have the same message only if they are the same error. -/
theorem message_eq_message_iff (first second : Error) :
    first.message = second.message ↔ first = second := by
  constructor
  · intro h
    rw [first.message_eq, second.message_eq] at h
    obtain ⟨hheading, hdetails⟩ := heading_append_inj h
    exact eq_of_details hheading hdetails
  · intro h
    rw [h]

end Error

end Formula
