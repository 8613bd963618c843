/-
Structures in TOML: the readers of single fields, and the two ways to
write a structure.

A structure is a table with a key for each field, or a list with the
fields in the order of their declaration. Keys that no field has are
passed over, but what they hold must still have a value; items of a list
beyond the last field are not looked at. A date reads as a table that has
none of the fields.
-/
import SerialEndpoint.Toml.Value

namespace SerialEndpoint.Toml

-- ============================================================ in range

/-- True of a whole number that one of the widest machine words holds,
with or without a sign. -/
def isWordSized (number : Int) : Bool :=
  -(Nat.pow 2 127 : Int) ≤ number && number < (Nat.pow 2 128 : Int)

mutual

/-- True of a value all of whose numbers are in range. -/
def Value.inRange : Value → Bool
  | .text .. | .real .. | .flag .. | .moment => true
  | .whole number => isWordSized number
  | .unreadable => false
  | .array _ items => allInRange items
  | .table _ members => membersInRange members

/-- True of a list of values in range. -/
def allInRange : List Value → Bool
  | [] => true
  | value :: rest => value.inRange && allInRange rest

/-- True of members whose values are in range. -/
def membersInRange : List (String × Value) → Bool
  | [] => true
  | (_, value) :: rest => value.inRange && membersInRange rest

end

-- ======================================================= single fields

namespace Value

/-- A text. -/
def text? : Value → Option String
  | .text content => some content
  | _ => none

/-- A truth value. -/
def flag? : Value → Option Bool
  | .flag value => some value
  | _ => none

/-- A whole number from zero up to below `limit`. -/
def natBelow? (limit : Nat) : Value → Option Nat
  | .whole number => if 0 ≤ number ∧ number < limit then some number.toNat else none
  | _ => none

/-- A number of a byte. -/
def byte? (value : Value) : Option UInt8 := (value.natBelow? (Nat.pow 2 8)).map UInt8.ofNat

/-- A decimal number, or a whole number that a machine word holds. -/
def real? : Value → Option Binary64
  | .real number => some number
  | .whole number =>
    if -(Nat.pow 2 63 : Int) ≤ number ∧ number < (Nat.pow 2 64 : Int) then some (.ofInt number)
    else none
  | _ => none

/-- A list of values that are read alike. -/
def list? {α : Type} (read : Value → Option α) : Value → Option (List α)
  | .array _ items => items.mapM read
  | _ => none

/-- One of several names: as a text, or as the only key of a table that
has nothing more to say about it. -/
def name? : Value → Option String
  | .text content => some content
  | .table _ [(name, .table _ [])] => some name
  | .table _ [(name, .array _ [])] => some name
  | _ => none

-- ========================================================== structures

/-- The fields that a value gives to a structure with the keys `keys`. -/
def fields? (keys : List String) : Value → Option Members
  | .table _ members =>
    if membersInRange (members.filter fun m => m.1 ∉ keys) then
      some (members.filter fun m => m.1 ∈ keys)
    else none
  | .array _ items => some (keys.zip items)
  | .moment => some []
  | _ => none

end Value

/-- A field that must be there. -/
def Members.required? {α : Type} (fields : Members) (key : String) (read : Value → Option α) :
    Option α :=
  (fields.lookup key).bind read

/-- A field that has a default. -/
def Members.orDefault? {α : Type} (fields : Members) (key : String) (read : Value → Option α)
    (default : α) : Option α :=
  match fields.lookup key with
  | none => some default
  | some value => read value

/-- A field that may be missing. -/
def Members.optional? {α : Type} (fields : Members) (key : String) (read : Value → Option α) :
    Option (Option α) :=
  fields.orDefault? key (fun value => (read value).map some) none

end SerialEndpoint.Toml
