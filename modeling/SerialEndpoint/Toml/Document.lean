/-
TOML documents: from text to the table that it describes.

# Readers

Every reader takes a text and gives what it read with the text after it, or
nothing when the text cannot be what it reads. A reader that calls itself
counts its calls down, from more than it can need: a call takes a character,
or the next one does. So this count bounds no document. What is bounded is how
deep lists and tables stand in one another, and how many parts a key has
(`depthLimit`).

# Lines

Lines build the document's table one after the other, each below the last
header (`Draft`); the first line that is malformed, or that may not add what
it adds, makes the whole document malformed. A line can only end within a
value between the marks of a list or of a table in braces, and in a string
over several lines.
-/
import SerialEndpoint.Toml.Scalar

namespace SerialEndpoint.Toml

-- ============================================================= spacing

/-- Spaces and tabs. -/
def isSpacing (c : Char) : Bool := c == ' ' || c == '\t'

/-- True of a character that may stand in comments and strings as it is:
a tab, and everything that is no control. -/
def isPlain (c : Char) : Bool := c == '\t' || (0x20 ≤ c.toNat && c.toNat ≠ 0x7F)

/-- The text after its leading spaces and tabs. -/
def skipSpacing (text : List Char) : List Char := text.dropWhile isSpacing

/-- The text after the end of a line at its front. -/
def takeLineEnd? : List Char → Option (List Char)
  | '\n' :: rest => some rest
  | '\r' :: '\n' :: rest => some rest
  | _ => none

/-- The text after the rest of a line that holds nothing more than
spacing and a comment. -/
def finishLine? (text : List Char) : Option (List Char) :=
  let rest := match skipSpacing text with
    | '#' :: comment => comment.dropWhile isPlain
    | rest => rest
  if rest = [] then some [] else takeLineEnd? rest

/-- The text after spacing, line ends and comments; `inComment` tells
that a comment has begun. -/
def skipGap? (inComment : Bool) : List Char → Option (List Char)
  | [] => some []
  | '\n' :: rest => skipGap? false rest
  | '\r' :: '\n' :: rest => skipGap? false rest
  | c :: rest =>
    if inComment then
      if isPlain c then skipGap? true rest else none
    else if isSpacing c then skipGap? false rest
    else if c = '#' then skipGap? true rest
    else some (c :: rest)

-- ============================================================= strings

/-- The character of a one-letter escape. -/
def letterEscape? (c : Char) : Option Char :=
  if c = '"' ∨ c = '\\' then some c
  else if c = 'b' then some '\x08'
  else if c = 't' then some '\t'
  else if c = 'n' then some '\n'
  else if c = 'f' then some '\x0c'
  else if c = 'r' then some '\r'
  else if c = 'e' then some '\x1b'
  else none

/-- The character whose code point is given in hexadecimal digits. -/
def codePoint? (digits : List Char) : Option Char :=
  if digits.all isHexDigit then
    let n := digits.foldl (fun n c => 16 * n + digitValue c) 0
    if n < 0xD800 ∨ (0xE000 ≤ n ∧ n < 0x110000) then some (Char.ofNat n) else none
  else none

/-- The character of an escape, read after its backslash. -/
def readEscape? : List Char → Option (Char × List Char)
  | 'x' :: a :: b :: rest => (codePoint? [a, b]).map fun c => (c, rest)
  | 'u' :: a :: b :: c :: d :: rest => (codePoint? [a, b, c, d]).map fun c => (c, rest)
  | 'U' :: a :: b :: c :: d :: e :: f :: g :: h :: rest =>
    (codePoint? [a, b, c, d, e, f, g, h]).map fun c => (c, rest)
  | c :: rest => (letterEscape? c).map fun c => (c, rest)
  | [] => none

/-- A string on one line, read after its opening double quote. Each step
takes at least one character, so the text's length is fuel enough. -/
def readBasic? (fuel : Nat) (text : List Char) : Option (List Char × List Char) :=
  match fuel, text with
  | 0, _ => none
  | _, [] => none
  | fuel + 1, c :: rest =>
    if c = '"' then some ([], rest)
    else if c = '\\' then do
      let (c, rest) ← readEscape? rest
      let (more, rest) ← readBasic? fuel rest
      pure (c :: more, rest)
    else if isPlain c then do
      let (more, rest) ← readBasic? fuel rest
      pure (c :: more, rest)
    else none

/-- A literal string on one line, read after its opening quote. -/
def readLiteral? : List Char → Option (List Char × List Char)
  | [] => none
  | c :: rest =>
    if c = '\'' then some ([], rest)
    else if isPlain c then do
      let (more, rest) ← readLiteral? rest
      pure (c :: more, rest)
    else none

/-- The text without a line end at its front. -/
def dropLineEnd (text : List Char) : List Char := (takeLineEnd? text).getD text

/-- Up to two more quotes at the end of a long string belong to it. -/
def takeQuotes (quote : Char) : List Char → List Char × List Char
  | a :: b :: rest =>
    if a = quote then
      if b = quote then ([a, b], rest) else ([a], b :: rest)
    else ([], a :: b :: rest)
  | [a] => if a = quote then ([a], []) else ([], [a])
  | [] => ([], [])

/-- The text after its leading spacing and line ends. -/
def skipEmptyLines : List Char → List Char
  | [] => []
  | '\r' :: '\n' :: rest => skipEmptyLines rest
  | c :: rest => if isSpacing c ∨ c = '\n' then skipEmptyLines rest else c :: rest

/-- Where a backslash ends a line of a long string: the text after the
line end and all the spacing and line ends that follow it. -/
def skipBrokenLine? (text : List Char) : Option (List Char) :=
  (takeLineEnd? (skipSpacing text)).map skipEmptyLines

/-- A string over several lines, read after its opening quotes and the
line end behind them. -/
def readLongBasic? (fuel : Nat) (text : List Char) : Option (List Char × List Char) :=
  match fuel with
  | 0 => none
  | fuel + 1 =>
    match text with
    | [] => none
    | '"' :: '"' :: '"' :: rest => some (takeQuotes '"' rest)
    | '\\' :: rest =>
      match skipBrokenLine? rest with
      | some rest => readLongBasic? fuel rest
      | none => do
        let (c, rest) ← readEscape? rest
        let (more, rest) ← readLongBasic? fuel rest
        pure (c :: more, rest)
    | '\r' :: '\n' :: rest => do
      let (more, rest) ← readLongBasic? fuel rest
      pure ('\r' :: '\n' :: more, rest)
    | c :: rest =>
      if isPlain c ∨ c = '\n' then do
        let (more, rest) ← readLongBasic? fuel rest
        pure (c :: more, rest)
      else none

/-- A literal string over several lines, read after its opening quotes
and the line end behind them. -/
def readLongLiteral? : List Char → Option (List Char × List Char)
  | [] => none
  | '\'' :: '\'' :: '\'' :: rest => some (takeQuotes '\'' rest)
  | '\r' :: '\n' :: rest => do
    let (more, rest) ← readLongLiteral? rest
    pure ('\r' :: '\n' :: more, rest)
  | c :: rest =>
    if isPlain c ∨ c = '\n' then do
      let (more, rest) ← readLongLiteral? rest
      pure (c :: more, rest)
    else none

/-- A string of any of the four forms. -/
def readString? : List Char → Option (String × List Char)
  | '"' :: '"' :: '"' :: rest =>
    (readLongBasic? (rest.length + 1) (dropLineEnd rest)).map fun (s, rest) => (.ofList s, rest)
  | '"' :: rest =>
    (readBasic? (rest.length + 1) rest).map fun (s, rest) => (.ofList s, rest)
  | '\'' :: '\'' :: '\'' :: rest =>
    (readLongLiteral? (dropLineEnd rest)).map fun (s, rest) => (.ofList s, rest)
  | '\'' :: rest => (readLiteral? rest).map fun (s, rest) => (.ofList s, rest)
  | _ => none

-- ================================================================ keys

/-- True of a character of a key without quotes. -/
def isBareKeyChar (c : Char) : Bool := c.isAlphanum || c == '_' || c == '-'

/-- One part of a key: bare, or a string on one line. -/
def readKeyPart? : List Char → Option (String × List Char)
  | '"' :: rest =>
    (readBasic? (rest.length + 1) rest).map fun (s, rest) => (.ofList s, rest)
  | '\'' :: rest => (readLiteral? rest).map fun (s, rest) => (.ofList s, rest)
  | text =>
    let bare := text.takeWhile isBareKeyChar
    if bare = [] then none else some (.ofList bare, text.dropWhile isBareKeyChar)

/-- How deep lists and tables may stand in one another, and how many
parts a key may have. -/
def depthLimit : Nat := 80

/-- The parts of a key: those before the last, the last, and the text
after it and its spacing. Each part takes a character, so the text's
length is fuel enough. -/
def readKeyParts? (fuel : Nat) (text : List Char) : Option (List String × String × List Char) :=
  match fuel with
  | 0 => none
  | fuel + 1 => do
    let (part, rest) ← readKeyPart? (skipSpacing text)
    match skipSpacing rest with
    | '.' :: rest => do
      let (path, key, rest) ← readKeyParts? fuel rest
      pure (part :: path, key, rest)
    | rest => pure ([], part, rest)

/-- A key that has not too many parts, with the text after it. -/
def readKey? (text : List Char) : Option (List String × String × List Char) :=
  (readKeyParts? (text.length + 1) text).filter fun key => key.1.length < depthLimit

-- ============================================================== values

/-- True of a character that can stand in a word without quotes: all but
spacing, line ends and the marks that part values from one another. -/
def isWordChar (c : Char) : Bool :=
  c ∉ [' ', '\t', '\r', '\n', '#', ',', '=', '[', ']', '\x7b', '\x7d']

/-- A word without quotes. A date takes a time after one space along. -/
def takeWord (text : List Char) : List Char × List Char :=
  let word := text.takeWhile isWordChar
  match text.dropWhile isWordChar with
  | ' ' :: c :: rest =>
    if c.isDigit ∧ takeDate? word = some [] then
      (word ++ ' ' :: (c :: rest).takeWhile isWordChar, (c :: rest).dropWhile isWordChar)
    else (word, ' ' :: c :: rest)
  | rest => (word, rest)

mutual

/-- A value. `depth` is how many lists and tables may still be opened;
`fuel` counts calls, of which each character needs at most two. -/
def readValue? (fuel depth : Nat) (text : List Char) : Option (Value × List Char) :=
  match fuel with
  | 0 => none
  | fuel + 1 =>
    match text, depth with
    | '[' :: _, 0 => none
    | '[' :: rest, depth + 1 => do
      let (items, rest) ← readItems? fuel depth (← skipGap? false rest)
      pure (.array false items, rest)
    | '\x7b' :: _, 0 => none
    | '\x7b' :: rest, depth + 1 => do
      let (members, rest) ← readMembers? fuel depth [] (← skipGap? false rest)
      pure (.table .closed members, rest)
    | '"' :: _, _ | '\'' :: _, _ =>
      (readString? text).map fun (s, rest) => (.text s, rest)
    | _, _ =>
      let (word, rest) := takeWord text
      (readWord? word).map fun value => (value, rest)

/-- The items of a list up to its closing bracket, with or without a
comma after the last. -/
def readItems? (fuel depth : Nat) (text : List Char) : Option (List Value × List Char) :=
  match fuel with
  | 0 => none
  | fuel + 1 =>
    match text with
    | ']' :: rest => some ([], rest)
    | text => do
      let (item, rest) ← readValue? fuel depth text
      match ← skipGap? false rest with
      | ',' :: rest => do
        let (items, rest) ← readItems? fuel depth (← skipGap? false rest)
        pure (item :: items, rest)
      | ']' :: rest => pure ([item], rest)
      | _ => none

/-- The members of a table in braces up to its closing brace, added to
the ones before them, with or without a comma after the last. Lines may
end and comments may stand between all of its marks, but not inside a
key. -/
def readMembers? (fuel depth : Nat) (members : Members) (text : List Char) :
    Option (Members × List Char) :=
  match fuel with
  | 0 => none
  | fuel + 1 =>
    match text with
    | '\x7d' :: rest => some (members, rest)
    | text => do
      let (path, key, rest) ← readKey? text
      match ← skipGap? false rest with
      | '=' :: rest => do
        let (value, rest) ← readValue? fuel depth (← skipGap? false rest)
        let members ← addKey path key value .opened members
        match ← skipGap? false rest with
        | ',' :: rest => readMembers? fuel depth members (← skipGap? false rest)
        | '\x7d' :: rest => pure (members, rest)
        | _ => none
      | _ => none

end

-- =============================================================== lines

/-- A document in the making: its table, and the path of the last
header. -/
structure Draft where
  root : Members := []
  header : List String := []

/-- One line with something on it: a header, a double header, or a key
with its value. -/
def readLine? (draft : Draft) (text : List Char) : Option (Draft × List Char) :=
  match text with
  | '[' :: '[' :: rest => do
    let (path, key, rest) ← readKey? rest
    match rest with
    | ']' :: ']' :: rest => do
      let root ← openItem path key draft.root
      pure (⟨root, path ++ [key]⟩, ← finishLine? rest)
    | _ => none
  | '[' :: rest => do
    let (path, key, rest) ← readKey? rest
    match rest with
    | ']' :: rest => do
      let root ← openTable path key draft.root
      pure (⟨root, path ++ [key]⟩, ← finishLine? rest)
    | _ => none
  | text => do
    let (path, key, rest) ← readKey? text
    match rest with
    | '=' :: rest => do
      let (value, rest) ← readValue? (2 * rest.length + 2) depthLimit (skipSpacing rest)
      let root ← changeAt false (addKey path key value) draft.header .opened draft.root
      pure ({ draft with root }, ← finishLine? rest)
    | _ => none

/-- All lines of a document. Each takes a character, so the text's length
is fuel enough. -/
def readLines? (fuel : Nat) (draft : Draft) (text : List Char) : Option Draft :=
  match fuel with
  | 0 => none
  | fuel + 1 => do
    match ← skipGap? false text with
    | [] => pure draft
    | text => do
      let (draft, rest) ← readLine? draft text
      readLines? fuel draft rest

/-- The table that a document describes. A byte order mark at the front
says nothing. -/
def readDocument? (text : String) : Option Members :=
  let text := match text.toList with
    | '\uFEFF' :: rest => rest
    | text => text
  (readLines? (text.length + 1) {} text).map Draft.root

end SerialEndpoint.Toml
