import PeerLink.Text.Invisible

/-!
# Quoted text

The form in which messages show a text that comes from outside: between quotation marks, with the
marks, the backslash and every invisible character escaped, so that what is shown is unambiguous and
stays on one line. A single character is shown between apostrophes by the same rule.
-/

namespace PeerLink.Text.Quoted

/-- The escape of a character by its code point, `\u` and the hexadecimal digits in braces. -/
def codePoint (c : Char) : List Char :=
  '\\' :: 'u' :: '\x7b' :: (Nat.toDigits 16 c.toNat ++ ['\x7d'])

/-- How a character is shown between two marks `mark`. -/
def escape (mark c : Char) : List Char :=
  if c = '\x00' then ['\\', '0']
  else if c = '\t' then ['\\', 't']
  else if c = '\r' then ['\\', 'r']
  else if c = '\n' then ['\\', 'n']
  else if c = '\\' ∨ c = mark then ['\\', c]
  else if isInvisible c then codePoint c
  else [c]

/-- A text between quotation marks. -/
def text (s : String) : String :=
  String.ofList ('"' :: (s.toList.flatMap (escape '"') ++ ['"']))

/-- A character between apostrophes. -/
def char (c : Char) : String :=
  String.ofList ('\'' :: (escape '\'' c ++ ['\'']))

end PeerLink.Text.Quoted
