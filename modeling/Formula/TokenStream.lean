import Formula.Lexer
import Formula.Run

/-!
# Tokens with one in sight

A stream shows the token that comes next before it is taken.  To take it, the
lexer reads the one behind it, so a character with which no token starts is
noticed one token early.  At the end of a text the end is shown, and taken,
again and again.

A call leaves a stream whether it fails or not, and the stream can be asked again.
-/

namespace Formula

structure TokenStream where
  /-- It has read the token in sight and nothing behind it. -/
  lexer : Lexer
  lookahead : Token
  deriving DecidableEq, Repr

namespace TokenStream

/-- What a lexer reads next, with the end of the text read like a token. -/
def scan (lexer : Lexer) : Run Token × Lexer :=
  match lexer.nextToken with
  | (.ok (some token), after) => (.after (.scanned token) (.ok token), after)
  | (.ok none, after) => (.after (.ended after.cursor) (.ok (.endOfInput after.cursor)), after)
  | (.error error, after) => (.after (.strayed lexer.cursor) (.error error), after)

def ofLexer (lexer : Lexer) : Run TokenStream :=
  let (first, after) := scan lexer
  do
    let token ← first
    pure ⟨after, token⟩

def ofText (text : String) : Run TokenStream :=
  ofLexer (.ofText text)

/-- The next token is taken only once the one behind it has been read. -/
def advance (stream : TokenStream) : Run Token × TokenStream :=
  if stream.lookahead.kind = .endOfInput then
    (pure stream.lookahead, stream)
  else
    let (next, lexer) := scan stream.lexer
    let shown :=
      match next.outcome with
      | .ok token => token
      | .error _ => stream.lookahead
    (do let _ ← next; pure stream.lookahead, ⟨lexer, shown⟩)

/-- Take the next token if it is of a kind, and say whether it is. -/
def advanceIf (kind : Kind) (stream : TokenStream) : Run Bool × TokenStream :=
  if stream.lookahead.kind = kind then
    let (taken, after) := stream.advance
    (do let _ ← taken; pure true, after)
  else
    (pure false, stream)

/-- A bound on the tokens that are left.  Each that has not been read takes a character. -/
def room (stream : TokenStream) : Nat :=
  stream.lexer.place.rest.length + 1

end TokenStream

end Formula
