/-
The outputs of a sketch (`outputs_configured`). One function configures the
pins, another drives them, and each goes by a list of its own: the pins as
they were granted there, the commands and the PWM pins here.

# What is read

Both lists are read off the text, as the first arguments of the calls in the
body of a function: of `pinMode` in the setup (`outputsIn`), and of
`digitalWrite`, `analogWrite` and `readVoltage` in the function that takes a
line (`pinsIn`). For a sketch they come out as lists over the assignments
(`pinCalls_setupBody`, `pinCalls_dispatchBody`). The lines that take no pin
drop out of them: their calls are those of fixed text, whatever name or number
is put into them.

# The same pins

That the two lists name the same pins is seen component by component, of the
pins themselves and not of their names (`mem_outputs_iff`):

- the brake and the direction pins of a motor and the pin of a switch are
  written by a command;
- the PWM pin of a motor is in no command, and its duty writes it;
- the pin of a voltage sensor is written by nothing. It collects, so it is no
  output either (`collect_of_readVoltage`).

# No pin twice

The wiring of one component says nothing of the others. That no pin is
configured twice rests on the grants: no two of them lie in one place of the
headers. The text has names and no places, but the name of a pin tells where
it sits (`position_of_name`), so the names differ too
(`Rendered.names_nodup`). A pin whose voltage is read is not configured for
the same reason.
-/
import SerialEndpoint.Proofs.Grants
import SerialEndpoint.Proofs.Sketch.Calls

namespace SerialEndpoint

open Sketch

-- ============================================================ components

/-- The pins of a component that are outputs. -/
def Assignment.outputs (a : Assignment) : List Pin :=
  (a.roles.filter fun entry => entry.1 ≠ .collect).map Prod.snd

theorem names_outputs (assignments : List Assignment) :
    (assignments.flatMap Assignment.outputs).map Pin.name
      = ((assignments.flatMap Assignment.roles).filter fun entry => entry.1 ≠ .collect).map
          fun entry => entry.2.name := by
  rw [List.filter_flatMap, List.map_flatMap, List.map_flatMap]
  refine List.flatMap_congr fun a _ => ?_
  unfold Assignment.outputs
  rw [List.map_map]
  rfl

/-- A pin is an output of a component exactly if one of its commands writes
it or its duty does. -/
theorem mem_outputs_iff {a : Assignment} (hf : Wiring.Fits a.kind a.wiring) (pin : Pin) :
    pin ∈ a.outputs
      ↔ (∃ command ∈ a.commands, ∃ level, command.action = .write pin level)
        ∨ a.pin? .pwm = some pin := by
  unfold Assignment.outputs Assignment.commands Assignment.pin? Assignment.roles
  generalize a.kind = kind at hf
  generalize a.wiring = wiring at hf
  cases hf with
  | motor pwm direction brake =>
      cases pwm <;> cases direction <;> simp [Wiring.roles] <;> grind
  | voltageSensor collect => simp [Wiring.roles]
  | switch control => simp [Wiring.roles, eq_comm]
  | distanceSensor => simp [Wiring.roles]
  | generic ignored => cases ignored <;> simp [Wiring.roles]

/-- A pin whose voltage is read collects. -/
theorem collect_of_readVoltage {a : Assignment} (hf : Wiring.Fits a.kind a.wiring) :
    ∀ command ∈ a.commands, ∀ pin, command.action = .readVoltage pin →
      (Role.collect, pin) ∈ a.roles := by
  unfold Assignment.commands Assignment.roles
  generalize a.kind = kind at hf
  generalize a.wiring = wiring at hf
  cases hf with
  | motor pwm direction brake => cases pwm <;> cases direction <;> simp
  | voltageSensor collect => simp [Wiring.roles, eq_comm]
  | switch control => simp
  | distanceSensor => simp
  | generic ignored => cases ignored <;> simp

-- ================================================================ names

/-- The name of a pin tells where it sits. -/
theorem position_of_name {p q : Pin} (h : p.name = q.name) : p.position = q.position := by
  obtain ⟨pc, pn⟩ := p
  obtain ⟨qc, qn⟩ := q
  have hdigits : ∀ m n : UInt8, toString m.toNat = toString n.toNat → m = n := by
    intro m n heq
    have hread := congrArg byte? heq
    rw [byte?_digits, byte?_digits] at hread
    exact Option.some_inj.1 hread
  have hletter : ∀ m n : UInt8, toString m.toNat ≠ "A" ++ toString n.toNat := by
    intro m n heq
    have hmem : 'A' ∈ (toString m.toNat).toList := by
      rw [heq, String.toList_append]
      exact List.mem_append_left _ (List.mem_singleton.2 rfl)
    exact absurd (isDigit_nat _ _ hmem) (by decide)
  cases pc <;> cases qc
  case analog.analog =>
      exact congrArg Position.analog (hdigits _ _ ((String.append_right_inj "A").1 h))
  case pwm.analog | digital.analog => exact absurd h (hletter pn qn)
  case analog.pwm | analog.digital => exact absurd h.symm (hletter qn pn)
  all_goals exact congrArg Position.digital (hdigits _ _ h)

/-- No two grants of an endpoint have one name. -/
theorem Rendered.names_nodup {generator : Generator} {artifacts : Artifacts}
    (hr : Rendered generator artifacts) (hp : generator.pools.Available) :
    ((artifacts.assignments.flatMap Assignment.roles).map fun entry => entry.2.name).Nodup := by
  have hnumbers : ∀ category, numbersOf category
      ((artifacts.assignments.flatMap Assignment.roles).map Prod.snd)
        = artifacts.assignments.flatMap (Assignment.granted category) := by
    intro category
    rw [List.map_flatMap]
    generalize artifacts.assignments = assignments
    induction assignments with
    | nil => rfl
    | cons a rest ih =>
        rw [List.flatMap_cons, numbersOf_append, ih, List.flatMap_cons]
        exact congrArg (· ++ _) (numbersOf_roles category a.wiring)
  have hnodup : ((artifacts.assignments.flatMap Assignment.roles).map Prod.snd).Nodup :=
    nodup_of_numbersOf fun category => by
      rw [hnumbers]
      exact hr.granted_nodup hp category
  have hpool : ∀ pin ∈ (artifacts.assignments.flatMap Assignment.roles).map Prod.snd,
      pin.number ∈ generator.pools.pool pin.category := by
    intro pin hpin
    obtain ⟨n, hn⟩ := hr.granted pin.category
    rw [← hnumbers] at hn
    refine List.mem_of_mem_take (i := n) ?_
    rw [hn]
    unfold numbersOf
    exact List.mem_map_of_mem (List.mem_filter.2 ⟨hpin, by simp⟩)
  -- pins of one name are in one place, and in one place there is one pin
  have hnames := hnodup.map_on fun p hpin q hqin hname =>
    hp.position_inj (hpool p hpin) (hpool q hqin) (position_of_name hname)
  rw [List.map_map] at hnames
  exact hnames

-- ============================================================= sections

namespace Firmware

variable {firmware : Firmware} {assignments : List Assignment}

theorem unopened_speedVariable {a : Assignment} (hn : isComponentName a.name = true) :
    Unopened a.speedVariable := by
  unfold Assignment.speedVariable
  exact unopened_append.2 ⟨by decide, (bare_name hn).unopened⟩

theorem unopened_sensorVariable {a : Assignment} (hn : isComponentName a.name = true) :
    Unopened a.sensorVariable := by
  unfold Assignment.sensorVariable
  exact unopened_append.2 ⟨by decide, (bare_name hn).unopened⟩

theorem pinCalls_pinModes {a : Assignment} (hn : isComponentName a.name = true) :
    pinCalls (pinModes a) = a.outputs.map fun pin => ⟨"pinMode", pin.name, ", OUTPUT"⟩ := by
  unfold pinModes Assignment.outputs
  rw [List.map_eq_flatMap, pinCalls_flatMap, List.map_map, List.map_eq_flatMap]
  refine List.flatMap_congr fun (role, pin) _ => ?_
  have hremark : Unopened ("; // " ++ a.name ++ " " ++ role.text) :=
    unopened_append.2 ⟨unopened_append.2 ⟨unopened_append.2 ⟨by decide, (bare_name hn).unopened⟩,
      by decide⟩, (bare_role role).unopened⟩
  have htext : (Line.plain ("pinMode(" ++ pin.name ++ ", OUTPUT); // " ++ a.name ++ " " ++
        role.text)).content.toList
      = "pinMode".toList ++ '(' :: (pin.name.toList ++ (", OUTPUT".toList ++ ')' ::
          ("; // " ++ a.name ++ " " ++ role.text).toList)) := by
    simp [Line.content]
  rw [pinCalls_singleton, htext]
  exact calls_of_last_pin (by decide) (bare_pin pin) (by decide) (by decide) (by decide) hremark

theorem pinCalls_sensorStart (firmware : Firmware) {a : Assignment}
    (hn : isComponentName a.name = true) : pinCalls (firmware.sensorStart a) = [] := by
  have hnumber : Unopened (toString firmware.ranging.timeout ++ ");") :=
    unopened_append.2 ⟨(bare_nat _).unopened, by decide⟩
  unfold sensorStart
  rw [pinCalls_cons,
    pinCalls_of_member _ "setTimeout(" _ (by simp only [Line.content, String.append_assoc]; rfl)
      (unopened_sensorVariable hn) hnumber (by decide),
    pinCalls_of_member _ "init(" ");" rfl (unopened_sensorVariable hn) (by decide) (by decide)]
  rfl

theorem pinCalls_setupBody (hs : Served assignments) :
    pinCalls (firmware.setupBody assignments)
      = (assignments.flatMap Assignment.outputs).map
          fun pin => ⟨"pinMode", pin.name, ", OUTPUT"⟩ := by
  have hserial : pinCalls [.plain ("Serial.begin(" ++ toString firmware.baud ++ ");")] = [] :=
    pinCalls_of_lead "Serial.begin(" _ (String.append_assoc ..)
      (unopened_append.2 ⟨(bare_nat _).unopened, by decide⟩) (by decide)
  have hwire : pinCalls [.plain "Wire.begin();"] = [] :=
    pinCalls_of_lead "Wire.begin(" ");" rfl (by decide) (by decide)
  have hmodes : (assignments.flatMap fun a => pinCalls (pinModes a))
      = (assignments.flatMap Assignment.outputs).map
          fun pin => ⟨"pinMode", pin.name, ", OUTPUT"⟩ := by
    rw [List.map_flatMap]
    exact List.flatMap_congr fun a ha => pinCalls_pinModes (hs.named a ha)
  have hstarts : ((distanceSensors assignments).flatMap fun a =>
      pinCalls (firmware.sensorStart a)) = [] :=
    List.flatMap_eq_nil_iff.2 fun a ha =>
      pinCalls_sensorStart firmware (hs.named a (List.mem_filter.1 ha).1)
  unfold setupBody
  rw [pinCalls_cons, hserial, List.nil_append, pinCalls_append, pinCalls_flatMap, hmodes]
  split
  · exact List.append_nil _
  · rw [pinCalls_cons, hwire, pinCalls_flatMap, hstarts, List.nil_append, List.append_nil]

/-- What a duty is written with. -/
def dutyCalls (a : Assignment) : List Invocation :=
  (a.pin? .pwm).toList.map fun pin => ⟨"analogWrite", pin.name, ", constrain(atoi(command"⟩

/-- The pins that are used on a command. -/
def actionCalls : Action → List Invocation
  | .write pin level => [⟨"digitalWrite", pin.name, ", " ++ level.text⟩]
  | .readVoltage pin => [⟨"readVoltage", pin.name, ""⟩]
  | .awaitSpeed _ | .readDistance | .placeholder => []

theorem pinCalls_dutyBranch {a : Assignment} (hn : isComponentName a.name = true) :
    pinCalls (dutyBranch a) = dutyCalls a := by
  have hvariable : Unopened a.speedVariable := unopened_speedVariable hn
  unfold dutyBranch dutyCalls
  cases a.pin? .pwm with
  | none => rfl
  | some pin =>
      have hguard : pinCalls [.opening ("if (" ++ a.speedVariable ++
          " == SPEED_AWAITING_PARAM)")] = [] :=
        pinCalls_of_lead "if (" (a.speedVariable ++ " == SPEED_AWAITING_PARAM) \x7b")
          (by simp only [Line.content, String.append_assoc]; rfl)
          (unopened_append.2 ⟨hvariable, by decide⟩) (by decide)
      have hwrite : pinCalls [.plain ("analogWrite(" ++ pin.name ++
          ", constrain(atoi(command), 0, 255));")]
          = [⟨"analogWrite", pin.name, ", constrain(atoi(command"⟩] := by
        have htext : (Line.plain ("analogWrite(" ++ pin.name ++
              ", constrain(atoi(command), 0, 255));")).content.toList
            = "analogWrite".toList ++ '(' :: (pin.name.toList ++
                (", constrain(atoi(command".toList ++ ')' :: ", 0, 255));".toList)) := by
          simp [Line.content]
        rw [pinCalls_singleton, htext]
        refine calls_of_pin (by decide) (bare_pin pin) (by decide) (by decide) ?_
        -- the duty comes from calls of other functions, and none of these takes a pin
        have hinner := calls_anew (bare_pin pin).unopened (c := ',') (by decide) (by decide) []
          (" constrain(atoi(command), 0, 255));".toList)
        refine (congrArg (List.filter _) hinner).trans (by decide)
      have hstate : pinCalls [.plain (a.speedVariable ++ " = SPEED_IDLE;")] = [] :=
        pinCalls_unopened (unopened_append.2 ⟨hvariable, by decide⟩)
      rw [pinCalls_cons, hguard, pinCalls_cons, hwrite, pinCalls_cons, hstate]
      rfl

theorem pinCalls_actionLines (firmware : Firmware) {a : Assignment}
    (hn : isComponentName a.name = true) (action : Action) :
    pinCalls (firmware.actionLines a action) = actionCalls action := by
  have hname : Unopened a.name := (bare_name hn).unopened
  unfold actionLines actionCalls
  cases action with
  | write pin level =>
      have htext : (Line.plain ("digitalWrite(" ++ pin.name ++ ", " ++ level.text ++
            ");")).content.toList
          = "digitalWrite".toList ++ '(' :: (pin.name.toList ++
              ((", " ++ level.text).toList ++ ')' :: ";".toList)) := by
        simp [Line.content]
      have hlevel : ')' ∉ (", " ++ level.text).toList ∧ Unopened (", " ++ level.text) := by
        cases level <;> decide
      rw [pinCalls_singleton, htext]
      exact calls_of_last_pin (by decide) (bare_pin pin) hlevel.1 (by simp) hlevel.2 (by decide)
  | awaitSpeed pwm =>
      exact pinCalls_unopened (unopened_append.2 ⟨unopened_speedVariable hn, by decide⟩)
  | readVoltage pin =>
      have hreply : pinCalls [.plain ("char reply[" ++
          toString firmware.voltage.replyCapacity ++ "];")] = [] :=
        pinCalls_unopened
          (unopened_append.2 ⟨unopened_append.2 ⟨by decide, (bare_nat _).unopened⟩, by decide⟩)
      have hformat : pinCalls [.plain ("dtostrf(readVoltage(" ++ pin.name ++ "), 1, " ++
          toString firmware.voltage.precision ++ ", reply);")]
          = [⟨"readVoltage", pin.name, ""⟩] := by
        have hrest : Unopened (", 1, " ++ toString firmware.voltage.precision ++ ", reply);") :=
          unopened_append.2 ⟨unopened_append.2 ⟨by decide, (bare_nat _).unopened⟩, by decide⟩
        have htext : (Line.plain ("dtostrf(readVoltage(" ++ pin.name ++ "), 1, " ++
              toString firmware.voltage.precision ++ ", reply);")).content.toList
            = "dtostrf".toList ++ '(' :: ("readVoltage".toList ++ '(' :: (pin.name.toList ++
                ("".toList ++ ')' :: (", 1, " ++ toString firmware.voltage.precision ++
                  ", reply);").toList))) := by
          simp [Line.content]
        -- the call that takes the pin is an argument of another one
        rw [pinCalls_singleton, htext, calls_of_other (by decide) (by decide)]
        exact calls_of_last_pin (by decide) (bare_pin pin) (by decide) (by decide) (by decide) hrest
      have hwrites : pinCalls [.plain "Serial.write(reply);", .plain "Serial.write('\\n');"]
          = [] := by
        decide
      rw [pinCalls_cons, hreply, pinCalls_cons, hformat, hwrites]
      rfl
  | readDistance =>
      exact pinCalls_of_lead "dumpDistance(" _ (String.append_assoc ..)
        (unopened_append.2 ⟨unopened_sensorVariable hn, by decide⟩) (by decide)
  | placeholder =>
      exact pinCalls_unopened (unopened_append.2 ⟨unopened_append.2 ⟨by decide, hname⟩, by decide⟩)

theorem pinCalls_commandBranch (firmware : Firmware) {a : Assignment}
    (hn : isComponentName a.name = true) {command : Command} (hc : command ∈ a.commands) :
    pinCalls (firmware.commandBranch a command) = actionCalls command.action := by
  have hline := (bare_line (commands_component a command hc ▸ hn)).unopened
  have hguard : pinCalls [.opening ("if (strcmp(command, \"" ++ command.line ++ "\") == 0)")]
      = [] :=
    pinCalls_of_lead "if (strcmp(command, \"" (command.line ++ "\") == 0) \x7b")
      (by simp only [Line.content, String.append_assoc]; rfl)
      (unopened_append.2 ⟨hline, by decide⟩) (by decide)
  have hend : pinCalls [.plain "return;", .closing] = [] := by decide
  unfold commandBranch
  rw [pinCalls_append, pinCalls_append, hguard, pinCalls_actionLines firmware hn, hend,
    List.nil_append, List.append_nil]

theorem pinCalls_dispatchBody (hs : Served assignments) :
    pinCalls (firmware.dispatchBody assignments)
      = assignments.flatMap dutyCalls
        ++ assignments.flatMap fun a => a.commands.flatMap fun c => actionCalls c.action := by
  have hremark : pinCalls [.plain "// unmatched lines are discarded"] = [] := by decide
  have hduties : (assignments.flatMap fun a => pinCalls (dutyBranch a))
      = assignments.flatMap dutyCalls :=
    List.flatMap_congr fun a ha => pinCalls_dutyBranch (hs.named a ha)
  have hcommands : (assignments.flatMap fun a => pinCalls (firmware.componentBranches a))
      = assignments.flatMap fun a => a.commands.flatMap fun c => actionCalls c.action := by
    refine List.flatMap_congr fun a ha => ?_
    unfold componentBranches
    rw [pinCalls_flatMap]
    exact List.flatMap_congr fun c hc => pinCalls_commandBranch firmware (hs.named a ha) hc
  unfold dispatchBody
  rw [pinCalls_append, pinCalls_append, pinCalls_flatMap, pinCalls_flatMap, hduties, hcommands,
    hremark, List.append_nil]

end Firmware

-- ============================================================== outputs

namespace Sketch

/-- The pins that a body configures as outputs. -/
def outputsIn (body : List (List Char)) : List String :=
  ((callsTo ["pinMode"] body).filter (·.others = ", OUTPUT")).map Invocation.first

/-- The pins that some functions are called with in a body. -/
def pinsIn (functions : List String) (body : List (List Char)) : List String :=
  (callsTo functions body).map Invocation.first

end Sketch

section Outputs

variable {firmware : Firmware} {assignments : List Assignment}

theorem pinModes_setup (hs : Served assignments) :
    callsTo ["pinMode"] ((firmware.setupBody assignments).map fun line => line.content.toList)
      = (assignments.flatMap Assignment.outputs).map
          fun pin => ⟨"pinMode", pin.name, ", OUTPUT"⟩ := by
  rw [callsTo_eq (by decide), Firmware.pinCalls_setupBody hs, List.filter_eq_self]
  intro call hcall
  obtain ⟨pin, -, rfl⟩ := List.mem_map.1 hcall
  simp

theorem outputsIn_setup (hs : Served assignments) :
    outputsIn ((firmware.setupBody assignments).map fun line => line.content.toList)
      = (assignments.flatMap Assignment.outputs).map Pin.name := by
  unfold outputsIn
  rw [pinModes_setup hs, List.filter_eq_self.2, List.map_map]
  · rfl
  · intro call hcall
    obtain ⟨pin, -, rfl⟩ := List.mem_map.1 hcall
    simp

/-- What is driven is the outputs of the components. -/
theorem mem_driven_iff (hs : Served assignments) (name : String) :
    name ∈ pinsIn ["digitalWrite", "analogWrite"]
        ((firmware.dispatchBody assignments).map fun line => line.content.toList)
      ↔ name ∈ (assignments.flatMap Assignment.outputs).map Pin.name := by
  unfold pinsIn
  rw [callsTo_eq (by decide), Firmware.pinCalls_dispatchBody hs]
  simp only [List.mem_map, List.mem_filter, List.mem_append, List.mem_flatMap, decide_eq_true_eq]
  constructor
  · rintro ⟨call, ⟨⟨a, ha, hcall⟩ | ⟨a, ha, command, hc, hcall⟩, hdrives⟩, rfl⟩
    · obtain ⟨pin, hpin, rfl⟩ := List.mem_map.1 hcall
      exact ⟨pin, ⟨a, ha, (mem_outputs_iff (hs.fits a ha) pin).2
        (.inr (Option.mem_toList.1 hpin))⟩, rfl⟩
    · unfold Firmware.actionCalls at hcall
      split at hcall
      · rename_i pin level haction
        rw [List.mem_singleton.1 hcall]
        exact ⟨pin, ⟨a, ha, (mem_outputs_iff (hs.fits a ha) pin).2
          (.inl ⟨command, hc, level, haction⟩)⟩, rfl⟩
      -- a pin that is read is in no call that drives
      · rw [List.mem_singleton.1 hcall] at hdrives
        exact absurd hdrives (by simp)
      all_goals cases hcall
  · rintro ⟨pin, ⟨a, ha, hpin⟩, rfl⟩
    rcases (mem_outputs_iff (hs.fits a ha) pin).1 hpin with ⟨command, hc, level, haction⟩ | hpwm
    · refine ⟨⟨"digitalWrite", pin.name, ", " ++ level.text⟩,
        ⟨.inr ⟨a, ha, command, hc, ?_⟩, by simp⟩, rfl⟩
      rw [haction]
      exact List.mem_singleton.2 rfl
    · refine ⟨⟨"analogWrite", pin.name, ", constrain(atoi(command"⟩, ⟨.inl ⟨a, ha, ?_⟩, by simp⟩,
        rfl⟩
      unfold Firmware.dutyCalls
      rw [hpwm]
      exact List.mem_singleton.2 rfl

/-- What is read is a pin that collects. -/
theorem collect_of_read (hs : Served assignments) {name : String}
    (h : name ∈ pinsIn ["readVoltage"]
      ((firmware.dispatchBody assignments).map fun line => line.content.toList)) :
    ∃ pin : Pin, (Role.collect, pin) ∈ assignments.flatMap Assignment.roles ∧ pin.name = name := by
  unfold pinsIn at h
  rw [callsTo_eq (by decide), Firmware.pinCalls_dispatchBody hs] at h
  simp only [List.mem_map, List.mem_filter, List.mem_append, List.mem_flatMap,
    decide_eq_true_eq] at h
  obtain ⟨call, ⟨⟨a, ha, hcall⟩ | ⟨a, ha, command, hc, hcall⟩, hreads⟩, rfl⟩ := h
  · obtain ⟨pin, -, rfl⟩ := List.mem_map.1 hcall
    exact absurd hreads (by simp)
  · unfold Firmware.actionCalls at hcall
    split at hcall
    · rw [List.mem_singleton.1 hcall] at hreads
      exact absurd hreads (by simp)
    · rename_i pin haction
      rw [List.mem_singleton.1 hcall]
      exact ⟨pin, List.mem_flatMap.2 ⟨a, ha,
        collect_of_readVoltage (hs.fits a ha) command hc pin haction⟩, rfl⟩
    all_goals cases hcall

end Outputs

/-- In the sketch of an endpoint every pin that is driven is configured as
an output, once, and no other pin is configured; no pin whose voltage is
read is among them. -/
theorem outputs_configured {generator : Generator} {agent : Agent} {artifacts : Artifacts}
    (hpools : generator.pools.Available) (hrender : generator.render agent = .ok artifacts) :
    ∃ setup dispatch,
      body? "void setup()" artifacts.sketch = some setup
        ∧ body? "void dispatchCommand(const char *command)" artifacts.sketch = some dispatch
        ∧ (∀ call ∈ callsTo ["pinMode"] setup, call.others = ", OUTPUT")
        ∧ (outputsIn setup).Nodup
        ∧ (∀ pin, pin ∈ outputsIn setup ↔ pin ∈ pinsIn ["digitalWrite", "analogWrite"] dispatch)
        ∧ ∀ pin ∈ pinsIn ["readVoltage"] dispatch, pin ∉ outputsIn setup := by
  have hr := rendered_of_render hrender
  have hs := hr.served
  have hnames := hr.names_nodup hpools
  have hsetup := Firmware.body?_setup generator.accepted hs
  have hdispatch := Firmware.body?_dispatch generator.accepted hs
  rw [← hr.sketch_eq] at hsetup hdispatch
  refine ⟨_, _, hsetup, hdispatch, ?_, ?_, fun pin => ?_, fun name hread => ?_⟩
  · rw [pinModes_setup hs]
    intro call hcall
    obtain ⟨pin, -, rfl⟩ := List.mem_map.1 hcall
    rfl
  · rw [outputsIn_setup hs, names_outputs]
    exact hnames.sublist ((List.filter_sublist ..).map _)
  · rw [outputsIn_setup hs, mem_driven_iff hs]
  · obtain ⟨pin, hpin, rfl⟩ := collect_of_read hs hread
    rw [outputsIn_setup hs, names_outputs]
    intro houtput
    obtain ⟨entry, hentry, hsame⟩ := List.mem_map.1 houtput
    obtain ⟨hmem, hrole⟩ := List.mem_filter.1 hentry
    have heq := List.inj_on_of_nodup_map hnames hmem hpin hsame
    rw [heq] at hrole
    exact absurd hrole (by simp)

/-- The motor of the robot has three outputs, each switch has one and the
sensor none. -/
theorem outputs_configured_rover :
    (∃ generator, Generator.ofParts .uno {} = .ok generator
        ∧ generator.render rover = .ok (roverArtifacts {}))
      ∧ ∃ setup dispatch,
        body? "void setup()" (roverArtifacts {}).sketch = some setup
          ∧ body? "void dispatchCommand(const char *command)" (roverArtifacts {}).sketch
              = some dispatch
          ∧ outputsIn setup = ["3", "2", "4", "5", "6"]
          ∧ (∀ pin, pin ∈ pinsIn ["digitalWrite", "analogWrite"] dispatch
              ↔ pin ∈ ["3", "2", "4", "5", "6"])
          ∧ pinsIn ["readVoltage"] dispatch = ["A0"] ∧ "A0" ∉ outputsIn setup := by
  have hrender : Generator.render ⟨.uno, {}, Firmware.default_accepted⟩ rover
      = .ok (roverArtifacts {}) := render_rover rfl
  obtain ⟨setup, dispatch, hsetup, hdispatch, -, -, hdriven, hapart⟩ :=
    @outputs_configured _ _ _ (.own .uno) hrender
  have hs : Served roverAssignments := (rendered_of_render hrender).served
  have haccepted := Firmware.default_accepted
  have houtputs : outputsIn setup = ["3", "2", "4", "5", "6"] := by
    rw [Option.some_inj.1 (hsetup.symm.trans (Firmware.body?_setup haccepted hs)),
      outputsIn_setup hs]
    decide
  have hread : pinsIn ["readVoltage"] dispatch = ["A0"] := by
    rw [Option.some_inj.1 (hdispatch.symm.trans (Firmware.body?_dispatch haccepted hs)), pinsIn,
      callsTo_eq (by decide), Firmware.pinCalls_dispatchBody hs]
    decide
  refine ⟨⟨_, ofParts_accepted .uno haccepted, hrender⟩, setup, dispatch, hsetup, hdispatch,
    houtputs, fun pin => ?_, hread, hapart "A0" ?_⟩
  · rw [← hdriven, houtputs]
  · rw [hread]
    exact List.mem_singleton.2 rfl

end SerialEndpoint
