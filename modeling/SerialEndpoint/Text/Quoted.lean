/-
Quoted text for messages: a text between double quotes in which every
character can be seen.
-/
import SerialEndpoint.Text.Formless

namespace SerialEndpoint.Quoted

/-- A character by its code point, in lower case hexadecimal digits. -/
def byCodePoint (c : Char) : List Char :=
  ['\\', 'u', '\x7b'] ++ Nat.toDigits 16 c.toNat ++ ['\x7d']

/-- How one character is written: the quote, the backslash and the usual
controls by a backslash and a letter, other formless characters by their
code point, and everything else, the apostrophe included, as itself. -/
def escape (c : Char) : List Char :=
  if c = '"' then ['\\', '"']
  else if c = '\\' then ['\\', '\\']
  else if c = '\n' then ['\\', 'n']
  else if c = '\r' then ['\\', 'r']
  else if c = '\t' then ['\\', 't']
  else if c = '\x00' then ['\\', '0']
  else if isFormless c then byCodePoint c
  else [c]

/-- The quoted form of a text. -/
def encode (text : String) : String :=
  String.ofList ('"' :: text.toList.flatMap escape ++ ['"'])

end SerialEndpoint.Quoted
