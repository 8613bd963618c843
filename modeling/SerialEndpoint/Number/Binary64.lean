/-
Double precision numbers, held by their exact values.

A finite double is a whole number of units, one unit being the least
positive double 2^-1074, together with a sign (zero has one too). Every
operation is exact arithmetic on units followed by one rounding, so what
an operation returns can be read off `ofRatio` alone: the multiple of a
power of two nearest to the exact quotient, 53 significant bits wide, a
half going to the even neighbour.
-/

namespace SerialEndpoint

-- ==================================================== rounded division

/-- The quotient to the nearest whole number, a half going to the even
neighbour. -/
def divHalfEven (num den : Nat) : Nat :=
  let q := num / den
  let r := num % den
  if 2 * r < den then q
  else if den < 2 * r then q + 1
  else if q % 2 = 0 then q else q + 1

/-- The quotient to the nearest whole number, a half going up. -/
def divHalfUp (num den : Nat) : Nat :=
  (2 * num + den) / (2 * den)

-- ============================================================ the type

/-- A double precision number: not a number, an infinity, or a signed
count of units of 2^-1074. -/
inductive Binary64 where
  | nan
  | infinite (negative : Bool)
  | finite (negative : Bool) (units : Nat)
deriving DecidableEq

namespace Binary64

/-- How many units make one. -/
def unitsPerOne : Nat := Nat.pow 2 1074

/-- The first count of units too large for a finite double. -/
def unitsLimit : Nat := Nat.pow 2 2098

/-- The double nearest to a quotient: below 2^53 units every count is a
double, above it the last bits are rounded away, and from `unitsLimit` on
the result is infinite. -/
def ofRatio (negative : Bool) (num den : Nat) : Binary64 :=
  let drop := (num * unitsPerOne / den).log2 - 52
  let units := divHalfEven (num * unitsPerOne) (den * Nat.pow 2 drop) * Nat.pow 2 drop
  if units < unitsLimit then finite negative units else infinite negative

/-- The double nearest to a whole number. -/
def ofNat (n : Nat) : Binary64 := ofRatio false n 1

/-- The double nearest to a signed whole number; zero is positive. -/
def ofInt (i : Int) : Binary64 := ofRatio (decide (i < 0)) i.natAbs 1

/-- Positive zero. -/
def zero : Binary64 := finite false 0

/-- One. -/
def one : Binary64 := finite false unitsPerOne

-- ========================================================= arithmetic

/-- The magnitude. -/
def abs : Binary64 → Binary64
  | nan => nan
  | infinite _ => infinite false
  | finite _ u => finite false u

/-- The opposite sign, of a zero too. -/
def neg : Binary64 → Binary64
  | nan => nan
  | infinite n => infinite (!n)
  | finite n u => finite (!n) u

/-- The rounded product. Zero times infinity is not a number. -/
def mul : Binary64 → Binary64 → Binary64
  | nan, _ => nan
  | _, nan => nan
  | infinite a, infinite b => infinite (a != b)
  | infinite a, finite b v => if v = 0 then nan else infinite (a != b)
  | finite a u, infinite b => if u = 0 then nan else infinite (a != b)
  | finite a u, finite b v => ofRatio (a != b) (u * v) (unitsPerOne * unitsPerOne)

/-- The rounded quotient. A nonzero number over zero is infinite; zero
over zero and infinity over infinity are not numbers. -/
def div : Binary64 → Binary64 → Binary64
  | nan, _ => nan
  | _, nan => nan
  | infinite _, infinite _ => nan
  | infinite a, finite b _ => infinite (a != b)
  | finite a _, infinite b => finite (a != b) 0
  | finite a u, finite b v =>
    if v = 0 then (if u = 0 then nan else infinite (a != b))
    else ofRatio (a != b) u v

-- ========================================================= comparison

/-- True of both zeros. -/
def isZero : Binary64 → Bool
  | finite _ u => u == 0
  | _ => false

/-- True of every number that is neither infinite nor missing. -/
def isFinite : Binary64 → Bool
  | finite _ _ => true
  | _ => false

/-- Greater than zero. -/
def isPositive : Binary64 → Bool
  | nan => false
  | infinite n => !n
  | finite n u => !n && u != 0

/-- The magnitude, but at most one; one where there is no number. -/
def unitMagnitude : Binary64 → Binary64
  | nan => one
  | infinite _ => one
  | finite _ u => finite false (min u unitsPerOne)

/-- The nearest number between minus one and one, zero where there is no
number. A zero keeps its sign. -/
def clampUnit : Binary64 → Binary64
  | nan => zero
  | infinite n => finite n unitsPerOne
  | finite n u => finite n (min u unitsPerOne)

/-- The magnitude to the nearest whole number, a half going up; zero for
an infinity and where there is no number. -/
def nearestNat : Binary64 → Nat
  | finite _ u => divHalfUp u unitsPerOne
  | _ => 0

-- =================================================== interchange format

/-- The 64 bits of the interchange format: sign, eleven bits of exponent,
52 bits of fraction. Counts below 2^53 units stand for themselves; above,
each further power of two adds one to the exponent field. -/
def bits : Binary64 → Nat
  | nan => 0x7ff8000000000000
  | infinite n => signBit n + 0x7ff0000000000000
  | finite n u =>
    let drop := u.log2 - 52
    signBit n + drop * Nat.pow 2 52 + u / Nat.pow 2 drop
where
  signBit (negative : Bool) : Nat := if negative then Nat.pow 2 63 else 0

end Binary64

end SerialEndpoint
