/-
TOML values, and the rules by which lines of a document build tables.

A table remembers how it came to be, because that decides who may still
add to it: a table named only on the way to another one may be opened by
one header; a table made by dotted keys grows by dotted keys alone; a
table with a header of its own takes keys under that header and tables
below it; a table written in braces is closed.
-/
import SerialEndpoint.Number.Binary64

namespace SerialEndpoint.Toml

-- ============================================================= values

/-- How a table came to be. -/
inductive Origin where
  /-- Named on the way to the table of a header. -/
  | passed
  /-- Named on the way to the last part of a dotted key. -/
  | dotted
  /-- Opened by a header, or the document itself. -/
  | opened
  /-- Written in braces. -/
  | closed
deriving DecidableEq

/-- A value of a document. -/
inductive Value where
  | text (text : String)
  | whole (number : Int)
  | real (number : Binary64)
  /-- A word that stands where a number can stand but has no value: it is
  beyond every finite double, or its digits go wrong somewhere. -/
  | unreadable
  | flag (value : Bool)
  /-- A date, a time of day, or both. -/
  | moment
  /-- A list, written in brackets or grown by headers of its tables. -/
  | array (grown : Bool) (items : List Value)
  | table (origin : Origin) (members : List (String × Value))

/-- The members of a table in the order of their first mention. -/
abbrev Members := List (String × Value)

namespace Members

/-- The value of a key in place of the old one. -/
def replace (members : Members) (key : String) (value : Value) : Members :=
  members.map fun m => if m.1 = key then (key, value) else m

end Members

-- ===================================================== building tables

/-- Goes down a path of keys and changes the table at its end, making
the tables that are missing on the way. `dotted` tells a dotted key from
the path of a header. The path may pass through the last table of a grown
list, but through no closed table, and a dotted key through no table that
has a header. -/
def changeAt (dotted : Bool) (change : Origin → Members → Option Members) :
    List String → Origin → Members → Option Members
  | [], origin, members => change origin members
  | key :: path, _, members =>
    match members.lookup key with
    | none => do
      let origin := if dotted then Origin.dotted else Origin.passed
      let inner ← changeAt dotted change path origin []
      pure (members ++ [(key, .table origin inner)])
    | some (.table origin inner) => do
      if origin = .closed ∨ (dotted ∧ origin = .opened) then none
      let inner ← changeAt dotted change path origin inner
      pure (Members.replace members key (.table origin inner))
    | some (.array true items) =>
      match items.getLast? with
      | some (.table origin inner) => do
        let inner ← changeAt dotted change path origin inner
        pure (Members.replace members key (.array true (items.dropLast ++ [.table origin inner])))
      | _ => none
    | some _ => none

/-- Adds a key with its value to a table. The key must be new, and a
dotted key must end in a table that dotted keys made. -/
def addKey (path : List String) (key : String) (value : Value) (origin : Origin)
    (members : Members) : Option Members :=
  changeAt true (fun reached inner =>
    if path ≠ [] ∧ reached ≠ .dotted then none
    else if (inner.lookup key).isSome then none
    else some (inner ++ [(key, value)])) path origin members

/-- Opens the table of a header. It must be new or only passed through so
far. -/
def openTable (path : List String) (key : String) (root : Members) : Option Members :=
  changeAt false (fun _ inner =>
    match inner.lookup key with
    | none => some (inner ++ [(key, .table .opened [])])
    | some (.table .passed old) => some (Members.replace inner key (.table .opened old))
    | some _ => none) path .opened root

/-- Adds a table to the list of a double header. -/
def openItem (path : List String) (key : String) (root : Members) : Option Members :=
  changeAt false (fun _ inner =>
    match inner.lookup key with
    | none => some (inner ++ [(key, .array true [.table .opened []])])
    | some (.array true items) =>
      some (Members.replace inner key (.array true (items ++ [.table .opened []])))
    | some _ => none) path .opened root

end SerialEndpoint.Toml
