import Formula.Text.Combining
import Formula.Text.Printable

/-!
# Quoted text

Text between double quotes, with a backslash before whatever could be mistaken
or would not be seen.  No character but the closing quote is written as a lone
quote, so the end of quoted text can be found again.
-/

namespace Formula.Text

/-- One character inside quotes.

A combining mark would be drawn onto the character before it, so it is written
by its code point, like a character that is not shown. -/
def escape (c : Char) : List Char :=
  if c = '\x00' then ['\\', '0']
  else if c = '\t' then ['\\', 't']
  else if c = '\n' then ['\\', 'n']
  else if c = '\r' then ['\\', 'r']
  else if c = '"' ∨ c = '\\' then ['\\', c]
  else if isPrintable c ∧ ¬ isCombining c then [c]
  else ['\\', 'u', '\x7b'] ++ Nat.toDigits 16 c.toNat ++ ['\x7d']

def quote (text : String) : String :=
  String.ofList ('"' :: (text.toList.flatMap escape ++ ['"']))

end Formula.Text
