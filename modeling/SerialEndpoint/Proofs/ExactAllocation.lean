/-
An allocation to the pin (`allocates_exactly`).

# Sums

Whether components are served is decided by sums, category by category, and
what they are served is a front of each pool, whatever the order in which
motors, switches and sensors ask for it. The three cursors move at different
rates, but each of them counts nothing other than the pins of its own category
that were granted (`Wiring.Fits.length_granted`), so where it comes to stand
is what the components need.

# The fault

An allocation that fails names one category: that of the first pin which its
pool does not have, though pools that would run out later are short as well.
There is one such place at most, and an allocation that succeeds has none, so
the fault tells exactly where the pools run out.
-/
import SerialEndpoint.Proofs.Renderable

namespace SerialEndpoint

-- ============================================================= wirings

section Wirings

variable {kind : Kind} {wiring : Wiring}

/-- A wiring has as many pins of a category as its kind needs. -/
theorem Wiring.Fits.length_granted (h : Wiring.Fits kind wiring) (category : Category) :
    (wiring.granted category).length = kind.needs category := by
  cases h with
  | motor pwm direction brake =>
      cases pwm <;> cases direction <;> cases category <;> rfl
  | voltageSensor collect => cases category <;> rfl
  | switch control => cases category <;> rfl
  | distanceSensor => cases category <;> rfl
  | generic ignored => cases category <;> rfl

/-- A motor has a pin for its speed and one for its direction just where it
is declared with them. -/
theorem Wiring.Fits.motor_pins {a : Assignment} (h : Wiring.Fits a.kind a.wiring)
    {pwm direction : Bool} (hkind : a.kind = .motor pwm direction) :
    (a.pin? .pwm).isSome = pwm ∧ (a.pin? .direction).isSome = direction := by
  unfold Assignment.pin? Assignment.roles
  generalize a.wiring = wiring at h
  rw [hkind] at h
  cases h with
  | motor pwmPin directionPin brake => cases pwmPin <;> cases directionPin <;> exact ⟨rfl, rfl⟩

/-- The pins that were granted to some components are as many as they
need. -/
theorem length_granted {assignments : List Assignment} {components : List Component}
    (hserved : assignments.map Assignment.component = components)
    (hfits : ∀ a ∈ assignments, Wiring.Fits a.kind a.wiring) (category : Category) :
    (assignments.flatMap (Assignment.granted category)).length = needed components category := by
  unfold needed
  rw [← hserved, List.map_map, List.length_flatMap]
  exact congrArg List.sum
    (List.map_congr_left fun a ha => (hfits a ha).length_granted category)

end Wirings

-- ========================================================== allocation

/-- An allocation that serves components from the front of each pool. -/
structure Allotted (pools : Pools) (components : List Component)
    (allocation : Allocation) : Prop where
  /-- There is one assignment for each component, in order. -/
  served : allocation.assignments.map Assignment.component = components
  /-- Each pin is from the pool of its role. -/
  fits : ∀ a ∈ allocation.assignments, Wiring.Fits a.kind a.wiring
  /-- A motor has the pins that it is declared with. -/
  switches : ∀ a ∈ allocation.assignments, ∀ pwm direction, a.kind = .motor pwm direction →
    (a.pin? .pwm).isSome = pwm ∧ (a.pin? .direction).isSome = direction
  /-- A cursor stands behind as many pins as are needed. -/
  cursor : ∀ category, allocation.cursors.given category = needed components category
  /-- These are the first pins of the pool, in its order. -/
  front : ∀ category, allocation.assignments.flatMap (Assignment.granted category)
    = (pools.pool category).take (needed components category)

theorem allotted_of_allocate {pools : Pools} {components : List Component}
    {allocation : Allocation} (h : pools.allocate components = .ok allocation) :
    Allotted pools components allocation := by
  obtain ⟨hserved, hfits, hgranted⟩ := allocate_granted h
  have hcursor : ∀ category,
      allocation.cursors.given category = needed components category := by
    intro category
    rw [(hgranted category).1, length_granted hserved hfits]
  refine ⟨hserved, hfits, fun a ha pwm direction hkind => (hfits a ha).motor_pins hkind,
    hcursor, fun category => ?_⟩
  rw [← hcursor category, (hgranted category).2]

/-- Components are served if and only if each pool has as many pins as they
need of it; what they get then is the front of each pool, and else the
fault names the category of the first pin, in the order of asking, that
its pool does not have. -/
theorem allocates_exactly (pools : Pools) (components : List Component) :
    ((∃ allocation, pools.allocate components = .ok allocation)
        ↔ ∀ category, needed components category ≤ (pools.pool category).length)
      ∧ (∀ allocation, pools.allocate components = .ok allocation →
          Allotted pools components allocation)
      ∧ ∀ category, pools.allocate components = .error ⟨category⟩
          ↔ pools.RunsOut {} (wantsOf components) category := by
  have hdecided := allocate_decides pools components
  cases hallocate : pools.allocate components with
  | ok allocation =>
      rw [hallocate] at hdecided
      refine ⟨⟨fun _ => hdecided, fun _ => ⟨allocation, rfl⟩⟩, ?_, fun category => ⟨?_, fun h => ?_⟩⟩
      · rintro _ ⟨⟩
        exact allotted_of_allocate hallocate
      · rintro ⟨⟩
      · exact absurd hdecided h.short
  | error fault =>
      rw [hallocate] at hdecided
      refine ⟨⟨?_, fun h => absurd h hdecided.short⟩, ?_, fun category => ⟨?_, fun h => ?_⟩⟩
      · rintro ⟨_, ⟨⟩⟩
      · rintro _ ⟨⟩
      · rintro ⟨⟩
        exact hdecided
      · rw [← hdecided.unique h]

/-- Pools of one PWM pin and three digital pins serve a motor and a switch.
A second motor runs out of both; the fault is about the PWM pin, which it
asks for first. -/
theorem allocates_exactly_motors :
    let pools : Pools := ⟨[3], [4, 5, 6], [0]⟩
    let served : List Component := [⟨"Left", .motor true true⟩, ⟨"S1", .switch⟩]
    let greedy := served ++ [⟨"Right", .motor true true⟩]
    (∃ allocation, pools.allocate served = .ok allocation ∧ Allotted pools served allocation
        ∧ allocation.assignments.flatMap (Assignment.granted .digital) = [4, 5, 6])
      ∧ pools.allocate greedy = .error ⟨.pwm⟩ := by
  intro pools served greedy
  obtain ⟨hserved, hallotted, -⟩ := allocates_exactly pools served
  obtain ⟨-, -, hgreedy⟩ := allocates_exactly pools greedy
  constructor
  · obtain ⟨allocation, hallocate⟩ := hserved.2 fun category => by cases category <;> decide
    exact ⟨allocation, hallocate, hallotted allocation hallocate,
      (hallotted allocation hallocate).front .digital⟩
  · let front : List Category := [.pwm, .digital, .digital, .digital]
    refine (hgreedy .pwm).2 ⟨front, [.digital, .digital], rfl, fun category => ?_, fun h => ?_⟩
    · cases category <;> decide
    · exact absurd (h .pwm) (by decide)

end SerialEndpoint
