/-
Text for a log that a terminal may show: the characters that a terminal
acts on are written out, and everything else stands as it is.
-/
import SerialEndpoint.Text.Quoted

namespace SerialEndpoint.Logged

/-- True of an ASCII control that can begin or change a terminal sequence:
bell, backspace, form feed, escape and delete. Tabs and line ends are
none. -/
def isTerminalControl (c : Char) : Bool := c ∈ ['\x07', '\x08', '\x0c', '\x1b', '\x7f']

/-- True of a control from the upper half of the eight-bit codes. -/
def isUpperControl (c : Char) : Bool := 0x80 ≤ c.toNat && c.toNat ≤ 0x9F

/-- How one character is written: terminal controls by two hexadecimal
digits, upper controls by their code point, others as themselves. -/
def escape (c : Char) : List Char :=
  if isTerminalControl c then
    ['\\', 'x', Nat.digitChar (c.toNat / 16), Nat.digitChar (c.toNat % 16)]
  else if isUpperControl c then Quoted.byCodePoint c
  else [c]

/-- A text as it stands in a log. -/
def encode (text : String) : String := String.ofList (text.toList.flatMap escape)

end SerialEndpoint.Logged
