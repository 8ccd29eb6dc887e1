import Formula.Scan

/-!
# Reading one token at a time

A lexer is read in two ways.  `nextToken` tries again after an error and finds
the same error, since the place has not moved.  `next?` yields an error once and
nothing after it.
-/

namespace Formula

structure Lexer where
  input : String
  place : Place
  /-- Has `next?` yielded an error? -/
  failed : Bool
  deriving DecidableEq, Repr

namespace Lexer

def ofText (input : String) : Lexer :=
  ⟨input, .start input, false⟩

/-- The byte offset up to which the text has been read. -/
def cursor (lexer : Lexer) : Nat :=
  lexer.place.cursor

/-- The next token, or nothing at the end of the text. -/
def nextToken (lexer : Lexer) : Except Error (Option Token) × Lexer :=
  match lexer.place.find with
  | .token token after => (.ok (some token), { lexer with place := after })
  | .ended after => (.ok none, { lexer with place := after })
  | .stray character position =>
      (.error (.strayCharacter character.toString position), lexer)

/-- The next token or error, or nothing at the end of the text or after an error. -/
def next? (lexer : Lexer) : Option (Except Error Token) × Lexer :=
  if lexer.failed then
    (none, lexer)
  else
    match lexer.nextToken with
    | (.ok token?, after) => (token?.map .ok, after)
    | (.error error, after) => (some (.error error), { after with failed := true })

end Lexer

end Formula
