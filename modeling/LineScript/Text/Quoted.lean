import LineScript.Text.Printable

/-!
Quoted texts: the form in which a text is shown inside a collection or a message. Single quotes are
used, unless the text holds a single quote and no double quote.
-/

namespace LineScript.Text

/-- The last `width` hexadecimal digits of a number, in lower case. -/
def hexDigits : Nat → Nat → Text
  | 0, _ => []
  | width + 1, n => hexDigits width (n / 16) ++ [Nat.digitChar (n % 16)]

def escapeChar (quote c : Char) : Text :=
  if c = quote || c = '\\' then ['\\', c]
  else if c = '\n' then ['\\', 'n']
  else if c = '\r' then ['\\', 'r']
  else if c = '\t' then ['\\', 't']
  else if isPrintable c then [c]
  else if c.toNat < 0x100 then ['\\', 'x'] ++ hexDigits 2 c.toNat
  else if c.toNat < 0x10000 then ['\\', 'u'] ++ hexDigits 4 c.toNat
  else ['\\', 'U'] ++ hexDigits 8 c.toNat

def quoteFor (t : Text) : Char :=
  if t.contains '\x27' && !t.contains '"' then '"' else '\x27'

def quoted (t : Text) : Text :=
  quoteFor t :: (t.flatMap (escapeChar (quoteFor t)) ++ [quoteFor t])

end LineScript.Text
