import MeshDestination.Text.Property

/-!
# Quoted text

A text between quotes with escapes: the quote and the backslash behind a backslash, the usual
control characters by letter, and every other character that is unprintable or would be drawn onto
its neighbour by its code point in hexadecimal.
-/

namespace MeshDestination.Text

/-- A code point as `\u` and its lower-case hexadecimal digits in braces. -/
def escapeCodePoint (c : Char) : List Char :=
  ['\\', 'u', '\x7b'] ++ Nat.toDigits 16 c.toNat ++ ['\x7d']

/-- One character as it stands between two `quote` characters. -/
def escapeChar (quote c : Char) : List Char :=
  if c = '\x00' then ['\\', '0']
  else if c = '\t' then ['\\', 't']
  else if c = '\r' then ['\\', 'r']
  else if c = '\n' then ['\\', 'n']
  else if c = '\\' ∨ c = quote then ['\\', c]
  else if isExtending c || !isPrintable c then escapeCodePoint c
  else [c]

/-- The characters of a quoted text, quotes included. -/
def quoteChars (quote : Char) (s : List Char) : List Char :=
  quote :: s.flatMap (escapeChar quote) ++ [quote]

/-- A text in double quotes. -/
def quoted (s : String) : String :=
  String.ofList (quoteChars '"' s.toList)

/-- A character in single quotes. -/
def quotedChar (c : Char) : String :=
  String.ofList (quoteChars '\'' [c])

end MeshDestination.Text
