import Formula.Lexeme
import Formula.Text.Blank

/-!
# The tokens of a text

A text is read from left to right: blanks are skipped, then a token is taken.
Reading ends with the text or at a character with which no token starts.
-/

namespace Formula

/-- The number of bytes that characters take in UTF-8. -/
def byteLength : List Char → Nat
  | [] => 0
  | c :: rest => c.utf8Size + byteLength rest

theorem byteLength_append (front back : List Char) :
    byteLength (front ++ back) = byteLength front + byteLength back := by
  induction front with
  | nil => simp [byteLength]
  | cons c front ih => simp [byteLength, ih, Nat.add_assoc]

/-- A place in a text: its byte offset and the characters from there on. -/
structure Place where
  cursor : Nat
  rest : List Char
  deriving DecidableEq, Repr

inductive Finding where
  /-- A token, and the place behind it. -/
  | token (token : Token) (after : Place)
  /-- Nothing but blanks up to the end of the text, which is the place given. -/
  | ended (after : Place)
  /-- A character with which no token starts. -/
  | stray (character : Char) (position : Nat)
  deriving DecidableEq, Repr

namespace Place

def start (text : String) : Place :=
  ⟨0, text.toList⟩

def skipBlanks (place : Place) : Place :=
  ⟨place.cursor + byteLength (place.rest.takeWhile Text.isBlank),
    place.rest.dropWhile Text.isBlank⟩

def find (place : Place) : Finding :=
  match place.skipBlanks with
  | ⟨cursor, []⟩ => .ended ⟨cursor, []⟩
  | ⟨cursor, c :: rest⟩ =>
      match Lexeme.ofText? (c :: rest) with
      | some lexeme =>
          .token ⟨lexeme.kind, String.ofList lexeme.text, cursor⟩
            ⟨cursor + byteLength lexeme.text, lexeme.rest⟩
      | none => .stray c cursor

theorem length_skipBlanks_le (place : Place) :
    place.skipBlanks.rest.length ≤ place.rest.length := by
  exact (List.dropWhile_suffix _).length_le

theorem length_lt_of_find_token {place after : Place} {token : Token}
    (h : place.find = .token token after) : after.rest.length < place.rest.length := by
  unfold find at h
  split at h
  · cases h
  · rename_i cursor c rest hfirst
    split at h
    · rename_i lexeme hlexeme
      cases h
      have happend := congrArg List.length (Lexeme.text_append_rest_of_ofText? hlexeme)
      have hne := List.length_pos_iff.mpr (Lexeme.text_ne_nil_of_ofText? hlexeme)
      have hle := place.length_skipBlanks_le
      rw [hfirst, ← happend, List.length_append] at hle
      simp only
      omega
    · cases h

end Place

inductive Ending where
  /-- With the text, of which the length in bytes is given. -/
  | clean (position : Nat)
  /-- At a character with which no token starts; the blanks before it start at the cursor. -/
  | stray (cursor : Nat) (character : Char) (position : Nat)
  deriving DecidableEq, Repr

structure Scan where
  tokens : List Token
  ending : Ending
  deriving DecidableEq, Repr

namespace Scan

def ofPlace (place : Place) : Scan :=
  match h : place.find with
  | .token token after =>
      have := Place.length_lt_of_find_token h
      let later := ofPlace after
      ⟨token :: later.tokens, later.ending⟩
  | .ended after => ⟨[], .clean after.cursor⟩
  | .stray character position => ⟨[], .stray place.cursor character position⟩
termination_by place.rest.length

def ofText (text : String) : Scan :=
  ofPlace (.start text)

/-- The tokens, if they make up the whole text. -/
def toExcept (scan : Scan) : Except Error (List Token) :=
  match scan.ending with
  | .clean _ => .ok scan.tokens
  | .stray _ character position => .error (.strayCharacter character.toString position)

end Scan

def tokenize (text : String) : Except Error (List Token) :=
  (Scan.ofText text).toExcept

end Formula
