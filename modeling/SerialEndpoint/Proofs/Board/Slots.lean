/-
The speed slots of a board. A slot is made for every motor with a PWM pin,
and all that ever changes of it is whether the motor waits; so the slots
are told by the motors and one function that says who waits
(`slotsOf`).

# Three ways to find a motor

A board finds slots by pin, when a command for a duty makes one wait, and by
position, when a line is taken by the first that waits. A host speaks of
motors by name. The three agree because no two motors share a name or a pin
(`Separate`): making the first slot of a pin wait is making its motor wait
(`beginAwaiting_slotsOf`), and ending the first wait ends that of the first
motor that waits (`endAwaiting_slotsOf`). Both are by induction on the
motors, and in the step the rest of the motors has no motor with the name or
the pin of the first.

Whatever is rendered, the motors are separate: the names of the assignments
differ, and the PWM pins of the motors are pins that were granted
(`Rendered.separate`).
-/
import Mathlib.Data.List.Nodup
import SerialEndpoint.Board
import SerialEndpoint.Proofs.Rendering

namespace SerialEndpoint

-- =============================================================== motors

/-- The motors with a PWM pin, by name, in the order of the
assignments. -/
def speedPins (assignments : List Assignment) : List (String × Pin) :=
  assignments.filterMap fun a => (a.pin? .pwm).map fun pwm => (a.name, pwm)

/-- The motors with names and pins of their own. -/
structure Separate (motors : List (String × Pin)) : Prop where
  names : (motors.map Prod.fst).Nodup
  pins : (motors.map Prod.snd).Nodup

theorem Separate.of_cons {entry : String × Pin} {rest : List (String × Pin)}
    (h : Separate (entry :: rest)) : Separate rest :=
  ⟨(List.nodup_cons.1 h.names).2, (List.nodup_cons.1 h.pins).2⟩

theorem speedPins_cons_none {a : Assignment} (h : a.pin? .pwm = none)
    (rest : List Assignment) : speedPins (a :: rest) = speedPins rest := by
  unfold speedPins
  rw [List.filterMap_cons_none]
  rw [h]
  rfl

theorem speedPins_cons_some {a : Assignment} {pwm : Pin} (h : a.pin? .pwm = some pwm)
    (rest : List Assignment) :
    speedPins (a :: rest) = (a.name, pwm) :: speedPins rest := by
  unfold speedPins
  rw [List.filterMap_cons_some]
  rw [h]
  rfl

theorem speedPins_names (assignments : List Assignment) :
    ((speedPins assignments).map Prod.fst).Sublist (assignments.map Assignment.name) := by
  induction assignments with
  | nil => exact .slnil
  | cons a rest ih =>
      rw [List.map_cons]
      cases hpin : a.pin? .pwm with
      | none =>
          rw [speedPins_cons_none hpin]
          exact ih.cons _
      | some pwm =>
          rw [speedPins_cons_some hpin, List.map_cons]
          exact ih.cons_cons _

theorem granted_pwm {a : Assignment} (hf : Wiring.Fits a.kind a.wiring) :
    a.granted .pwm = (a.pin? .pwm).toList.map Pin.number := by
  unfold Assignment.granted Assignment.pin? Assignment.roles
  generalize a.kind = kind at hf
  generalize a.wiring = wiring at hf
  cases hf with
  | motor pwm direction brake => cases pwm <;> cases direction <;> rfl
  | voltageSensor collect => rfl
  | switch control => rfl
  | distanceSensor => rfl
  | generic ignored => rfl

theorem speedPins_numbers {assignments : List Assignment}
    (hf : ∀ a ∈ assignments, Wiring.Fits a.kind a.wiring) :
    (speedPins assignments).map (fun motor => motor.2.number)
      = assignments.flatMap (Assignment.granted .pwm) := by
  induction assignments with
  | nil => rfl
  | cons a rest ih =>
      have hrest := ih fun b hb => hf b (List.mem_cons_of_mem _ hb)
      rw [List.flatMap_cons, granted_pwm (hf a (List.mem_cons_self ..)), ← hrest]
      cases hpin : a.pin? .pwm with
      | none =>
          rw [speedPins_cons_none hpin]
          rfl
      | some pwm =>
          rw [speedPins_cons_some hpin]
          rfl

/-- Whatever is rendered, no two motors share a name or a pin. -/
theorem Rendered.separate {generator : Generator} {artifacts : Artifacts}
    (hr : Rendered generator artifacts) (hp : generator.pools.Available) :
    Separate (speedPins artifacts.assignments) := by
  constructor
  · exact hr.served.distinct.sublist (speedPins_names _)
  · have hnumbers := hr.granted_nodup hp .pwm
    rw [← speedPins_numbers hr.served.fits] at hnumbers
    refine List.Nodup.of_map Pin.number ?_
    rw [List.map_map]
    exact hnumbers

-- ================================================================ slots

/-- The slot of a motor. -/
def slotOf (motor : String × Pin) (awaiting : Bool) : SpeedSlot :=
  { motor := motor.1, pwm := motor.2, awaiting }

/-- The slots of some motors, given who waits. -/
def slotsOf (motors : List (String × Pin)) (waits : String → Bool) : List SpeedSlot :=
  motors.map fun motor => slotOf motor (waits motor.1)

theorem slotsOf_cons (motor : String × Pin) (rest : List (String × Pin))
    (waits : String → Bool) :
    slotsOf (motor :: rest) waits = slotOf motor (waits motor.1) :: slotsOf rest waits :=
  rfl

theorem overlay_same {α β : Type} [DecidableEq α] (f : α → β) (key : α) (value : β) :
    overlay f key value key = value :=
  if_pos rfl

theorem overlay_other {α β : Type} [DecidableEq α] (f : α → β) {key k : α} (value : β)
    (h : k ≠ key) : overlay f key value k = f k :=
  if_neg h

theorem slotsOf_overlay_other {motors : List (String × Pin)} {waits : String → Bool}
    {name : String} {b : Bool} (hname : name ∉ motors.map Prod.fst) :
    slotsOf motors (overlay waits name b) = slotsOf motors waits := by
  unfold slotsOf
  refine List.map_congr_left fun motor hmem => ?_
  have hother : motor.1 ≠ name := fun heq => hname (heq ▸ List.mem_map_of_mem hmem)
  rw [overlay_other waits b hother]

/-- Making the first slot of a pin wait is making its motor wait. -/
theorem beginAwaiting_slotsOf {motors : List (String × Pin)} {waits : String → Bool}
    (h : Separate motors) {motor : String × Pin} (hmem : motor ∈ motors) :
    beginAwaiting motor.2 (slotsOf motors waits)
      = slotsOf motors (overlay waits motor.1 true) := by
  induction motors with
  | nil => cases hmem
  | cons first rest ih =>
      obtain ⟨hname, -⟩ := List.nodup_cons.1 h.names
      obtain ⟨hpin, -⟩ := List.nodup_cons.1 h.pins
      rw [slotsOf_cons, slotsOf_cons, beginAwaiting]
      rcases List.mem_cons.1 hmem with rfl | hmem
      · have hsame : (slotOf motor (waits motor.1)).pwm = motor.2 := rfl
        rw [if_pos hsame, slotsOf_overlay_other hname, overlay_same]
        rfl
      · have hother : (slotOf first (waits first.1)).pwm ≠ motor.2 := by
          show first.2 ≠ motor.2
          exact fun heq => hpin (heq ▸ List.mem_map_of_mem hmem)
        have hothername : first.1 ≠ motor.1 :=
          fun heq => hname (heq ▸ List.mem_map_of_mem hmem)
        rw [if_neg hother, ih h.of_cons hmem, overlay_other waits true hothername]

/-- Ending the first wait is ending that of the first motor that waits. -/
theorem endAwaiting_slotsOf {motors : List (String × Pin)} {waits : String → Bool}
    (h : Separate motors) {motor : String × Pin}
    (hfirst : motors.find? (fun m => waits m.1) = some motor) :
    endAwaiting (slotsOf motors waits)
      = slotsOf motors (overlay waits motor.1 false) := by
  induction motors with
  | nil => cases hfirst
  | cons first rest ih =>
      obtain ⟨hname, -⟩ := List.nodup_cons.1 h.names
      rw [slotsOf_cons, slotsOf_cons, endAwaiting]
      rw [List.find?_cons] at hfirst
      by_cases hwaits : waits first.1 = true
      · have hawaits : (slotOf first (waits first.1)).awaiting = true := hwaits
        simp only [hwaits] at hfirst
        cases hfirst
        rw [if_pos hawaits, slotsOf_overlay_other hname, overlay_same]
        rfl
      · have hawaits : ¬ (slotOf first (waits first.1)).awaiting = true := hwaits
        simp only [hwaits] at hfirst
        have hmem := List.mem_of_find?_eq_some hfirst
        have hothername : first.1 ≠ motor.1 :=
          fun heq => hname (heq ▸ List.mem_map_of_mem hmem)
        rw [if_neg hawaits, ih h.of_cons hfirst, overlay_other waits false hothername]

theorem find?_awaiting_slotsOf (motors : List (String × Pin)) (waits : String → Bool) :
    (slotsOf motors waits).find? SpeedSlot.awaiting
      = (motors.find? fun motor => waits motor.1).map fun motor =>
          slotOf motor (waits motor.1) := by
  unfold slotsOf
  rw [List.find?_map]
  rfl

-- ============================================================ at the start

theorem speedSlots_commands {a : Assignment} (hf : Wiring.Fits a.kind a.wiring) :
    speedSlots a.commands
      = (a.pin? .pwm).toList.map fun pwm => { motor := a.name, pwm } := by
  unfold speedSlots Assignment.commands Assignment.pin? Assignment.roles
  generalize a.kind = kind at hf
  generalize a.wiring = wiring at hf
  cases hf with
  | motor pwm direction brake => cases pwm <;> cases direction <;> rfl
  | voltageSensor collect => rfl
  | switch control => rfl
  | distanceSensor => rfl
  | generic ignored => cases ignored <;> rfl

theorem pin?_of_awaitSpeed {a : Assignment} (hf : Wiring.Fits a.kind a.wiring)
    {command : Command} (hc : command ∈ a.commands) {pwm : Pin}
    (haction : command.action = .awaitSpeed pwm) : a.pin? .pwm = some pwm := by
  have hslot : ({ motor := command.component, pwm } : SpeedSlot) ∈ speedSlots a.commands := by
    unfold speedSlots
    refine List.mem_filterMap.2 ⟨command, hc, ?_⟩
    rw [haction]
  rw [speedSlots_commands hf] at hslot
  obtain ⟨pin, hpin, heq⟩ := List.mem_map.1 hslot
  have hsame : pin = pwm := congrArg SpeedSlot.pwm heq
  rw [← hsame]
  exact Option.mem_toList.1 hpin

/-- A command that waits for a duty is one of a motor with a slot. -/
theorem mem_speedPins_of_awaitSpeed {assignments : List Assignment} {a : Assignment}
    (hf : Wiring.Fits a.kind a.wiring) (ha : a ∈ assignments) {command : Command}
    (hc : command ∈ a.commands) {pwm : Pin} (haction : command.action = .awaitSpeed pwm) :
    (a.name, pwm) ∈ speedPins assignments := by
  unfold speedPins
  refine List.mem_filterMap.2 ⟨a, ha, ?_⟩
  rw [pin?_of_awaitSpeed hf hc haction]
  rfl

/-- A board is switched on with a slot for each motor, and none waits. -/
theorem speedSlots_commandTable {assignments : List Assignment}
    (hf : ∀ a ∈ assignments, Wiring.Fits a.kind a.wiring) :
    speedSlots (commandTable assignments)
      = slotsOf (speedPins assignments) fun _ => false := by
  unfold commandTable
  induction assignments with
  | nil => rfl
  | cons a rest ih =>
      have hrest := ih fun b hb => hf b (List.mem_cons_of_mem _ hb)
      have hfirst := speedSlots_commands (hf a (List.mem_cons_self ..))
      unfold speedSlots at hrest hfirst ⊢
      rw [List.flatMap_cons, List.filterMap_append, hrest, hfirst]
      cases hpin : a.pin? .pwm with
      | none =>
          rw [speedPins_cons_none hpin]
          rfl
      | some pwm =>
          rw [speedPins_cons_some hpin]
          rfl

end SerialEndpoint
