/-
The pin pools of a board: for each category the pins it has to give, in
the order in which they are given.

`Pools.ofLists` accepts three lists exactly when no list names a pin
twice and no pin is both a PWM and a digital pin; the pools of the known
boards meet this by their tables.
-/
import SerialEndpoint.Pin

namespace SerialEndpoint

-- ============================================================== faults

/-- Why three lists of pins are no pools. -/
inductive PoolFault where
  /-- One list names the pin twice. -/
  | duplicate (category : Category) (pin : UInt8)
  /-- The pin is both a PWM and a digital pin. -/
  | overlapping (pin : UInt8)
deriving DecidableEq

/-- The message of a fault. -/
def PoolFault.message : PoolFault → String
  | duplicate category pin =>
    "pin " ++ toString pin.toNat ++ " is listed twice in the " ++ category.text ++ " pool"
  | overlapping pin => "pin " ++ toString pin.toNat ++ " appears in more than one pool"

-- =============================================================== pools

/-- The pins of a board by category. -/
structure Pools where
  pwm : List UInt8
  digital : List UInt8
  analog : List UInt8
deriving DecidableEq

/-- The first pin of a list that was seen before, in the list itself or
among `seen`. -/
def firstRepeat (seen : List UInt8) : List UInt8 → Option UInt8
  | [] => none
  | pin :: rest => if pin ∈ seen then some pin else firstRepeat (pin :: seen) rest

namespace Pools

/-- The pool of a category. -/
def pool (pools : Pools) : Category → List UInt8
  | .pwm => pools.pwm
  | .digital => pools.digital
  | .analog => pools.analog

/-- The first category, in the usual order, whose pool repeats a pin. -/
def repeated? (pools : Pools) : Option PoolFault :=
  Category.all.findSome? fun category =>
    (firstRepeat [] (pools.pool category)).map (PoolFault.duplicate category)

/-- The first PWM pin that is a digital pin too. -/
def shared? (pools : Pools) : Option PoolFault :=
  (pools.pwm.find? (· ∈ pools.digital)).map PoolFault.overlapping

/-- The pools with the given lists. Repetitions are reported before
overlaps. -/
def ofLists (pwm digital analog : List UInt8) : Except PoolFault Pools :=
  let pools : Pools := ⟨pwm, digital, analog⟩
  match pools.repeated? <|> pools.shared? with
  | some fault => .error fault
  | none => .ok pools

-- ======================================================== known boards

/-- The pins from `first` up to `last`. -/
def span (first last : Nat) : List UInt8 :=
  (List.range (last + 1 - first)).map fun i => UInt8.ofNat (first + i)

/-- The large board. Pins 0 and 1 carry the serial line; 4, 5, 6 and 13
could do PWM, but at another frequency, and are given as digital pins. -/
def mega : Pools where
  pwm := [3, 9, 10, 11, 2, 7, 8, 12, 44, 45, 46]
  digital := [4, 5, 6] ++ span 13 43 ++ span 47 53
  analog := span 0 15

/-- The small board. -/
def uno : Pools where
  pwm := [3, 9, 10, 11]
  digital := [2, 4, 5, 6, 7, 8, 12, 13]
  analog := span 0 5

end Pools

end SerialEndpoint
