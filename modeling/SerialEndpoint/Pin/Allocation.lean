/-
Giving pins to components.

Each pool has a cursor that only moves forward. Components are served
once, in order; a pin is granted where its pool's cursor stands. A grant
that fails ends the whole allocation, but the cursors keep what was taken
before it, so a caller who goes on never gets a pin twice.
-/
import SerialEndpoint.Pin.Pools

namespace SerialEndpoint

/-- How many pins each pool has given. -/
structure Cursors where
  pwm : Nat := 0
  digital : Nat := 0
  analog : Nat := 0
deriving DecidableEq

namespace Cursors

/-- How many pins of a category have been given. -/
def given (cursors : Cursors) : Category → Nat
  | .pwm => cursors.pwm
  | .digital => cursors.digital
  | .analog => cursors.analog

/-- The cursors after one more pin of a category. -/
def advance (cursors : Cursors) : Category → Cursors
  | .pwm => { cursors with pwm := cursors.pwm + 1 }
  | .digital => { cursors with digital := cursors.digital + 1 }
  | .analog => { cursors with analog := cursors.analog + 1 }

end Cursors

/-- The pool of this category has no pins left. -/
structure Exhausted where
  category : Category
deriving DecidableEq

/-- The message of an exhausted pool. -/
def Exhausted.message (fault : Exhausted) : String :=
  "no " ++ fault.category.text ++ " pins left to allocate"

/-- A step of an allocation: it moves the cursors, and it may find a pool
exhausted. -/
abbrev Granting := EStateM Exhausted Cursors

/-- Grants the next pin of a category. -/
def Pools.take (pools : Pools) (category : Category) : Granting Pin := do
  let cursors ← get
  match (pools.pool category)[cursors.given category]? with
  | none => throw ⟨category⟩
  | some number =>
    set (cursors.advance category)
    pure ⟨category, number⟩

/-- Grants the next pin of a category, where one is wanted. -/
def Pools.takeIf (pools : Pools) (wanted : Bool) (category : Category) : Granting (Option Pin) :=
  if wanted then some <$> pools.take category else pure none

/-- Grants the pins that one kind of component needs: a motor its PWM
pin, its direction pin and always a brake pin, in this order. -/
def Pools.wire (pools : Pools) : Kind → Granting Wiring
  | .motor pwm direction => do
    let pwmPin ← pools.takeIf pwm .pwm
    let directionPin ← pools.takeIf direction .digital
    let brake ← pools.take .digital
    pure (.motor pwmPin directionPin brake)
  | .voltageSensor => .voltageSensor <$> pools.take .analog
  | .switch => .switch <$> pools.take .digital
  | .distanceSensor | .generic _ => pure .none

/-- Grants one component its pins. -/
def Pools.assign (pools : Pools) (component : Component) : Granting Assignment :=
  Assignment.mk component <$> pools.wire component.kind

/-- A finished allocation: the components with their pins, in order, and
where the cursors came to stand. -/
structure Allocation where
  assignments : List Assignment
  cursors : Cursors

/-- Serves every component, in order, from full pools. -/
def Pools.allocate (pools : Pools) (components : List Component) : Except Exhausted Allocation :=
  match (components.mapM pools.assign).run {} with
  | .ok assignments cursors => .ok ⟨assignments, cursors⟩
  | .error fault _ => .error fault

end SerialEndpoint
