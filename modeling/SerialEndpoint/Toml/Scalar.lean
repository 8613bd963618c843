/-
TOML numbers, truth values, dates and times: what a word without quotes
can mean.

A word that is no number at all makes its document malformed. Some words
are taken for numbers although they have no value; they do no harm where
nobody asks for it.
-/
import SerialEndpoint.Toml.Value
import SerialEndpoint.Number.Decimal

namespace SerialEndpoint.Toml

-- ============================================================== digits

/-- The value of a digit up to base sixteen, in either case. -/
def digitValue (c : Char) : Nat :=
  if c.isDigit then c.toNat - '0'.toNat
  else if 'a' ≤ c then c.toNat - 'a'.toNat + 10
  else c.toNat - 'A'.toNat + 10

/-- True of a hexadecimal digit. -/
def isHexDigit (c : Char) : Bool :=
  c.isDigit || ('a' ≤ c && c ≤ 'f') || ('A' ≤ c && c ≤ 'F')

/-- True when every underscore of a text stands between two digits;
`before` is the character in front of the text. -/
def gapsAreClosed (isDigit : Char → Bool) (before : Char) : List Char → Bool
  | [] => true
  | c :: rest =>
    (c != '_' || (isDigit before && rest.head?.any isDigit)) && gapsAreClosed isDigit c rest

/-- A text without its underscores, each of which stands between two
digits or between a sign and a digit. -/
def closeGaps? (isDigit : Char → Bool) (signed : Bool) (text : List Char) : Option (List Char) :=
  if gapsAreClosed isDigit (if signed then '0' else ' ') text then
    some (text.filter (· ≠ '_'))
  else none

-- ============================================================= numbers

/-- A number without its sign. -/
structure Magnitude where
  /-- True when a sign was written. -/
  signed : Bool
  negative : Bool
  text : List Char

/-- A word taken apart into a sign and what follows it. -/
def Magnitude.ofWord : List Char → Magnitude
  | '+' :: text => ⟨true, false, text⟩
  | '-' :: text => ⟨true, true, text⟩
  | text => ⟨false, false, text⟩

/-- A whole number in a base, without the mark of the base. Without
digits there is no value. -/
def readBase? (base : Nat) (isDigit : Char → Bool) (text : List Char) : Option Value :=
  (closeGaps? isHexDigit false text).bind fun digits =>
    if !digits.all isDigit then none
    else if digits = [] then some .unreadable
    else some (.whole (Int.ofNat (digits.foldl (fun n c => base * n + digitValue c) 0)))

/-- A whole number in decimal: digits without an idle zero in front.
Behind an underscore the word may go on with other characters; it is
still taken for a number, which has no value. -/
def readDecimal? (magnitude : Magnitude) : Option Value :=
  let text := magnitude.text
  let rest := text.dropWhile Char.isDigit
  if text = ['0'] then some (.whole 0)
  else if text = [] ∨ text.head? = some '0' ∨ (rest ≠ [] ∧ rest.head? ≠ some '_') then none
  else (closeGaps? isHexDigit magnitude.signed text).map fun digits =>
    if digits.all Char.isDigit then
      .whole (if magnitude.negative then -Int.ofNat (digitsValue digits)
        else Int.ofNat (digitsValue digits))
    else .unreadable

/-- The exponent after an `e`: digits with or without a sign. -/
def readExponentDigits? : List Char → Option Int
  | '-' :: rest => (readDigits? rest).map fun n => -Int.ofNat n
  | '+' :: rest => (readDigits? rest).map Int.ofNat
  | text => (readDigits? text).map Int.ofNat

/-- A number with places, an exponent or both: the whole part has no idle
zero in front, and digits stand on both sides of the point. One that no
finite double is near to has no value. -/
def readReal? (magnitude : Magnitude) : Option Value := do
  let text ← closeGaps? Char.isDigit magnitude.signed magnitude.text
  let isMark (c : Char) : Bool := c == 'e' || c == 'E'
  let mantissa := text.takeWhile fun c => !isMark c
  let exponent ← match text.dropWhile fun c => !isMark c with
    | [] => some 0
    | _ :: rest => readExponentDigits? rest
  let whole := mantissa.takeWhile (· ≠ '.')
  let _ ← readDigits? whole
  if magnitude.text.head? = some '0' ∧ whole.length ≠ 1 then none
  let places ← match mantissa.dropWhile (· ≠ '.') with
    | [] => some []
    | _ :: places => (readDigits? places).map fun _ => places
  let number := Binary64.ofDecimal magnitude.negative (whole ++ places) (exponent - places.length)
  if number.isFinite then some (.real number) else some .unreadable

/-- True of a character that only a number with places or an exponent
has behind its first digits. -/
def isRealMark (c : Char) : Bool := c == '.' || c == 'e' || c == 'E'

/-- A decimal number with or without a sign, an infinity or the missing
number. -/
def readNumber? (word : List Char) : Option Value :=
  let magnitude := Magnitude.ofWord word
  if magnitude.text = ['i', 'n', 'f'] then some (.real (.infinite magnitude.negative))
  else if magnitude.text = ['n', 'a', 'n'] then some (.real .nan)
  else if (magnitude.text.dropWhile Char.isDigit).any isRealMark then readReal? magnitude
  else readDecimal? magnitude

-- ================================================================ time

/-- The number of two digits. -/
def pair? (a b : Char) : Option Nat := readDigits? [a, b]

/-- How many days a month has. -/
def daysIn (year month : Nat) : Nat :=
  if month = 2 then
    if year % 4 = 0 ∧ (year % 100 ≠ 0 ∨ year % 400 = 0) then 29 else 28
  else if month ∈ [4, 6, 9, 11] then 30
  else 31

/-- A date at the front of a text, and what follows it. -/
def takeDate? : List Char → Option (List Char)
  | y1 :: y2 :: y3 :: y4 :: '-' :: m1 :: m2 :: '-' :: d1 :: d2 :: rest => do
    let year ← readDigits? [y1, y2, y3, y4]
    let month ← pair? m1 m2
    let day ← pair? d1 d2
    if 1 ≤ month ∧ month ≤ 12 ∧ 1 ≤ day ∧ day ≤ daysIn year month then some rest else none
  | _ => none

/-- A fraction of a second at the front of a text: none, or a point and
digits. -/
def takeFraction? : List Char → Option (List Char)
  | '.' :: rest =>
    if (splitDigits rest).1 = [] then none else some (splitDigits rest).2
  | text => some text

/-- A time of day at the front of a text, with or without seconds. -/
def takeTime? : List Char → Option (List Char)
  | h1 :: h2 :: ':' :: m1 :: m2 :: rest => do
    let hour ← pair? h1 h2
    let minute ← pair? m1 m2
    if 23 < hour ∨ 59 < minute then none
    match rest with
    | ':' :: s1 :: s2 :: rest => do
      let second ← pair? s1 s2
      if 60 < second then none
      takeFraction? rest
    | rest => some rest
  | _ => none

/-- True of a distance from universal time, or of none. -/
def isOffset : List Char → Bool
  | [] => true
  | [c] => c == 'Z' || c == 'z'
  | [sign, h1, h2, ':', m1, m2] =>
    (sign == '+' || sign == '-') &&
      match pair? h1 h2, pair? m1 m2 with
      | some hour, some minute => hour ≤ 23 && minute ≤ 59
      | _, _ => false
  | _ => false

/-- True of a date, a time of day, or a date and a time with or without a
distance from universal time. -/
def isMoment (text : List Char) : Bool :=
  match takeDate? text with
  | some [] => true
  | some (separator :: rest) =>
    (separator == 'T' || separator == 't' || separator == ' ') &&
      match takeTime? rest with
      | some rest => isOffset rest
      | none => false
  | none => takeTime? text == some []

-- =============================================================== words

/-- What a word without quotes means. -/
def readWord? (word : List Char) : Option Value :=
  if word = ['t', 'r', 'u', 'e'] then some (.flag true)
  else if word = ['f', 'a', 'l', 's', 'e'] then some (.flag false)
  else if isMoment word then some .moment
  else match word with
    | '0' :: 'x' :: rest => readBase? 16 isHexDigit rest
    | '0' :: 'o' :: rest => readBase? 8 (fun c => '0' ≤ c && c ≤ '7') rest
    | '0' :: 'b' :: rest => readBase? 2 (fun c => c == '0' || c == '1') rest
    | word => readNumber? word

end SerialEndpoint.Toml
