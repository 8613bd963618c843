/-
Decimal text of numbers: reading it, and printing a double with a fixed
number of places.

Reading is exact up to the one rounding of `Binary64.ofRatio`; printing
rounds the exact value to the places asked for, a half going to the even
neighbour, and keeps the sign of a zero.
-/
import SerialEndpoint.Number.Binary64

namespace SerialEndpoint

-- ====================================================== whole numbers

/-- The digits at the front of a text, and what follows them. -/
def splitDigits (text : List Char) : List Char × List Char :=
  (text.takeWhile Char.isDigit, text.dropWhile Char.isDigit)

/-- The number that a row of digits denotes. -/
def digitsValue (digits : List Char) : Nat :=
  digits.foldl (fun n c => 10 * n + (c.toNat - '0'.toNat)) 0

/-- A text of nothing but digits, at least one. -/
def readDigits? (text : List Char) : Option Nat :=
  if text ≠ [] ∧ text.all Char.isDigit then some (digitsValue text) else none

/-- A whole number below `limit`: digits, with or without a plus sign. -/
def readNatBelow? (limit : Nat) (text : List Char) : Option Nat :=
  let digits := match text with
    | '+' :: rest => rest
    | _ => text
  (readDigits? digits).filter (· < limit)

/-- A whole number from `low` up to below `limit`: digits, with or
without a sign. -/
def readIntWithin? (low limit : Int) (text : List Char) : Option Int :=
  let value := match text with
    | '+' :: rest => (readDigits? rest).map Int.ofNat
    | '-' :: rest => (readDigits? rest).map fun n => -Int.ofNat n
    | _ => (readDigits? text).map Int.ofNat
  value.filter fun i => low ≤ i ∧ i < limit

-- ==================================================== reading a double

/-- The double nearest to `digits` times ten to the `exponent`. Beyond 310
places before the point every number is infinite, and with the first 330
places after it empty every number is zero, so huge exponents are settled
without computing their power. -/
def Binary64.ofDecimal (negative : Bool) (digits : List Char) (exponent : Int) : Binary64 :=
  let digits := digits.dropWhile (· == '0')
  let top : Int := digits.length + exponent
  if digits = [] then .finite negative 0
  else if 310 < top then .infinite negative
  else if top < -330 then .finite negative 0
  else if 0 ≤ exponent then .ofRatio negative (digitsValue digits * Nat.pow 10 exponent.toNat) 1
  else .ofRatio negative (digitsValue digits) (Nat.pow 10 (-exponent).toNat)

/-- The exponent part of a number: nothing, or an `e` with a signed row of
digits that ends the text. -/
def readExponent? (text : List Char) : Option Int :=
  match text with
  | [] => some 0
  | c :: rest =>
    if c = 'e' ∨ c = 'E' then
      match rest with
      | '-' :: digits => (readDigits? digits).map fun n => -Int.ofNat n
      | '+' :: digits => (readDigits? digits).map Int.ofNat
      | digits => (readDigits? digits).map Int.ofNat
    else none

/-- A decimal number without its sign: digits on at least one side of an
optional point, then an optional exponent. -/
def Binary64.readMagnitude? (negative : Bool) (text : List Char) : Option Binary64 :=
  let (whole, rest) := splitDigits text
  let (places, rest) := match rest with
    | '.' :: rest => splitDigits rest
    | _ => ([], rest)
  if whole = [] ∧ places = [] then none
  else (readExponent? rest).map fun e => ofDecimal negative (whole ++ places) (e - places.length)

/-- The number a text denotes: a signed decimal number, or one of the
words `inf`, `infinity` and `nan` in any case. -/
def Binary64.ofText? (text : String) : Option Binary64 :=
  let (negative, body) := match text.toList with
    | '-' :: rest => (true, rest)
    | '+' :: rest => (false, rest)
    | body => (false, body)
  match readMagnitude? negative body with
  | some number => some number
  | none =>
    let word := String.ofList (body.map Char.toLower)
    if word = "inf" ∨ word = "infinity" then some (.infinite negative)
    else if word = "nan" then some .nan
    else none

-- =================================================== printing a double

/-- A row of digits with a point before the last `places` of them; at
least one digit stands before the point. -/
def pointBefore (places : Nat) (digits : List Char) : List Char :=
  let padded := List.replicate (places + 1 - digits.length) '0' ++ digits
  let whole := padded.take (padded.length - places)
  if places = 0 then whole else whole ++ '.' :: padded.drop (padded.length - places)

/-- The text of a magnitude with a fixed number of places. -/
def fixedMagnitude (places units : Nat) : List Char :=
  pointBefore places (Nat.toDigits 10 (divHalfEven (units * Nat.pow 10 places) Binary64.unitsPerOne))

/-- The text of a number with a fixed number of places. -/
def Binary64.fixed (places : Nat) : Binary64 → String
  | nan => "NaN"
  | infinite negative => if negative then "-inf" else "inf"
  | finite negative units =>
    String.ofList ((if negative then ['-'] else []) ++ fixedMagnitude places units)

end SerialEndpoint
