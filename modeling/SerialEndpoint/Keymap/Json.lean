/-
Keymaps as JSON: one object of strings.

The printer indents by two spaces and escapes the quote, the backslash
and the controls below the space. The reader takes strict JSON with any
spacing and any escapes; of equal keys the last wins. What cannot be an
object of strings is refused as a whole.
-/
import SerialEndpoint.Keymap

namespace SerialEndpoint.Keymap

-- =========================================================== printing

/-- The lower case hexadecimal digit of a value below sixteen. -/
def hexDigit (n : Nat) : Char := Nat.digitChar n

/-- How one character stands in a string. -/
def escape (c : Char) : List Char :=
  if c = '"' then ['\\', '"']
  else if c = '\\' then ['\\', '\\']
  else if c = '\x08' then ['\\', 'b']
  else if c = '\x0c' then ['\\', 'f']
  else if c = '\n' then ['\\', 'n']
  else if c = '\r' then ['\\', 'r']
  else if c = '\t' then ['\\', 't']
  else if c.toNat < 0x20 then
    ['\\', 'u', '0', '0', hexDigit (c.toNat / 16), hexDigit (c.toNat % 16)]
  else [c]

/-- A string with its quotes. -/
def quote (text : String) : List Char :=
  '"' :: text.toList.flatMap escape ++ ['"']

/-- One member of the object on a line of its own. -/
def member (entry : String × String) : List Char :=
  "\n  ".toList ++ quote entry.1 ++ [':', ' '] ++ quote entry.2

/-- The JSON text of a keymap, without a line end after it. -/
def json (keymap : Keymap) : String :=
  String.ofList <|
    if keymap.entries = [] then ['\x7b', '\x7d']
    else '\x7b' :: List.intercalate [','] (keymap.entries.map member) ++ ['\n', '\x7d']

-- ============================================================ reading

/-- The text from the first character on that is no space. -/
def skipSpace (text : List Char) : List Char :=
  text.dropWhile fun c => c == ' ' || c == '\n' || c == '\t' || c == '\r'

/-- The value of a hexadecimal digit of either case. -/
def hexValue? (c : Char) : Option Nat :=
  if c.isDigit then some (c.toNat - '0'.toNat)
  else if 'a' ≤ c ∧ c ≤ 'f' then some (c.toNat - 'a'.toNat + 10)
  else if 'A' ≤ c ∧ c ≤ 'F' then some (c.toNat - 'A'.toNat + 10)
  else none

/-- The value of four hexadecimal digits. -/
def hexQuad? (a b c d : Char) : Option Nat := do
  pure ((((← hexValue? a) * 16 + (← hexValue? b)) * 16 + (← hexValue? c)) * 16 + (← hexValue? d))

/-- A piece of a string: a character, or one half of the two-part escapes
that name a code unit by its value. -/
inductive Piece where
  | char (c : Char)
  | unit (value : Nat)

/-- The character of a one-letter escape. -/
def letterEscape? (c : Char) : Option Char :=
  if c = '"' ∨ c = '\\' ∨ c = '/' then some c
  else if c = 'b' then some '\x08'
  else if c = 'f' then some '\x0c'
  else if c = 'n' then some '\n'
  else if c = 'r' then some '\r'
  else if c = 't' then some '\t'
  else none

/-- The pieces of a string up to its closing quote, and the text after
it. Controls may not stand in a string unescaped. -/
def readPieces? : List Char → Option (List Piece × List Char)
  | [] => none
  | '"' :: rest => some ([], rest)
  | '\\' :: 'u' :: a :: b :: c :: d :: rest => do
    let value ← hexQuad? a b c d
    let (pieces, rest) ← readPieces? rest
    pure (.unit value :: pieces, rest)
  | '\\' :: letter :: rest => do
    let c ← letterEscape? letter
    let (pieces, rest) ← readPieces? rest
    pure (.char c :: pieces, rest)
  | c :: rest => do
    if c.toNat < 0x20 ∨ c = '\\' then none
    let (pieces, rest) ← readPieces? rest
    pure (.char c :: pieces, rest)

/-- The characters of some pieces: two halves of a surrogate pair make
one character, and no half may stand alone. -/
def joinPieces? : List Piece → Option (List Char)
  | [] => some []
  | .char c :: rest => (c :: ·) <$> joinPieces? rest
  | .unit high :: .unit low :: rest =>
    if 0xD800 ≤ high ∧ high < 0xDC00 then
      if 0xDC00 ≤ low ∧ low < 0xE000 then
        (Char.ofNat (0x10000 + (high - 0xD800) * 0x400 + (low - 0xDC00)) :: ·) <$> joinPieces? rest
      else none
    else if 0xDC00 ≤ high ∧ high < 0xE000 then none
    else (Char.ofNat high :: ·) <$> joinPieces? (.unit low :: rest)
  | .unit value :: rest =>
    if 0xD800 ≤ value ∧ value < 0xE000 then none
    else (Char.ofNat value :: ·) <$> joinPieces? rest

/-- A string with its quotes, and the text after it. -/
def readString? : List Char → Option (String × List Char)
  | '"' :: rest => do
    let (pieces, rest) ← readPieces? rest
    let chars ← joinPieces? pieces
    pure (String.ofList chars, rest)
  | _ => none

/-- The members of an object from the first one on, and the text after
the closing brace. Every member takes at least one character, so `fuel`
need not exceed the length of the text. -/
def readMembers? (fuel : Nat) (text : List Char) : Option (List (String × String) × List Char) := do
  match fuel with
  | 0 => none
  | fuel + 1 =>
    let (key, rest) ← readString? (skipSpace text)
    match skipSpace rest with
    | ':' :: rest =>
      let (value, rest) ← readString? (skipSpace rest)
      match skipSpace rest with
      | ',' :: rest =>
        let (members, rest) ← readMembers? fuel rest
        pure ((key, value) :: members, rest)
      | '\x7d' :: rest => pure ([(key, value)], rest)
      | _ => none
    | _ => none

/-- The members of an object that is the whole text. -/
def readObject? (text : List Char) : Option (List (String × String)) :=
  match skipSpace text with
  | '\x7b' :: rest =>
    match skipSpace rest with
    | '\x7d' :: rest => if skipSpace rest = [] then some [] else none
    | rest => do
      let (members, rest) ← readMembers? text.length rest
      if skipSpace rest = [] then some members else none
  | _ => none

/-- The keymap that a JSON text denotes. -/
def ofJson? (text : String) : Option Keymap :=
  (readObject? text.toList).map ofEntries

end SerialEndpoint.Keymap
