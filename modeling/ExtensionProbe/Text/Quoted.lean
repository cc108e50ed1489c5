import ExtensionProbe.Text
import ExtensionProbe.Text.Hex
import ExtensionProbe.Text.Printable

/-!
# Quoted texts

A text between quotes, with nothing in it that cannot be seen. The quotes are single ones, unless the
text has single quotes and no double ones. A backslash and the quote in use are escaped, and a
character that is not printable and a half of a pair are written by their code points.

* `quote_eq`: a quoted text is its escaped characters between two quotes.
-/

namespace ExtensionProbe.Text

/-- The quote for a text. -/
def quoteFor (s : Text) : Char :=
  if s.contains '\'' && !s.contains '"' then '"' else '\''

/-- One character between quotes `q`. -/
def escapeChar (q c : Char) : List Char :=
  if c == q || c == '\\' then ['\\', c]
  else if c == '\n' then ['\\', 'n']
  else if c == '\r' then ['\\', 'r']
  else if c == '\t' then ['\\', 't']
  else if isPrintable c then [c]
  else if c.toNat < 0x100 then '\\' :: 'x' :: Hex.fixed 2 c.toNat
  else if c.toNat < 0x10000 then '\\' :: 'u' :: Hex.fixed 4 c.toNat
  else '\\' :: 'U' :: Hex.fixed 8 c.toNat

/-- One code point between quotes `q`. -/
def escape (q : Char) : Code → List Char
  | .char c => escapeChar q c
  | .half place => '\\' :: 'u' :: Hex.fixed 4 (Code.half place).value

/-- A text between quotes. -/
def quoteChars (s : Text) : List Char :=
  let q := quoteFor s
  q :: s.flatMap (escape q) ++ [q]

/-- A text between quotes. -/
def quote (s : Text) : String :=
  String.ofList (quoteChars s)

theorem quote_eq (s : Text) :
    (quote s).toList = quoteFor s :: s.flatMap (escape (quoteFor s)) ++ [quoteFor s] := by
  simp [quote, quoteChars]

end ExtensionProbe.Text
