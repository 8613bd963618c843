/-
What the lines of a sketch begin with. A sketch is put together from sections,
and what goes into its lines from outside are names, numbers and one token,
none of which holds a line end or stands at the front of a line. So every line
begins with one of a few fixed texts.

# The statement about a section

A line `Begins` with one of some heads if it holds no line end and is either
blank or begins with one of them. Each section has its list of heads, and a
lemma that says so of all its lines: `preamble_begins`, `globals_begins`,
`setupPart_begins`, `dispatch_begins`, `loop_begins`. For the fixed lines this
is decided; for a line with something put into it the head is named, and what
is left to show is that the inserted text is unbroken.

# What follows from it

- No head is empty or begins with a space. So all lines of a sketch are neat
  (`sketchLines_neat`), and they are read back from the text as they were laid
  out (`sourceLines_sketch`).
- A form that rejects every head of a section reads none of its lines
  (`filterMap_skipped`). Whether a form rejects a head is computed, so a form
  is known to skip a section without a look at the lines in it.

The heads of the dispatching function are kept apart from the one of a
comparison with a command (`branchHeads`), as the commands are looked for by a
form that reads this one head only.
-/
import SerialEndpoint.Sketch
import SerialEndpoint.Proofs.Replies
import SerialEndpoint.Proofs.Sketch.Lines
import SerialEndpoint.Proofs.Sketch.Forms

namespace SerialEndpoint

open Sketch

-- ====================================================== unbroken texts

/-- A text that holds no line end. -/
def Unbroken (text : String) : Prop := '\n' ∉ text.toList

instance (text : String) : Decidable (Unbroken text) :=
  inferInstanceAs (Decidable ('\n' ∉ text.toList))

/-- Texts without line ends stay so when they are joined. -/
theorem unbroken_append {s t : String} :
    Unbroken (s ++ t) ↔ Unbroken s ∧ Unbroken t := by
  unfold Unbroken
  rw [String.toList_append, List.mem_append, not_or]

theorem unbroken_nat (n : Nat) : Unbroken (toString n) :=
  fun hmem => absurd (isDigit_nat n _ hmem) (by decide)

theorem unbroken_name {name : String} (hn : isComponentName name = true) :
    Unbroken name :=
  notMem_name hn rfl

theorem unbroken_pin (pin : Pin) : Unbroken pin.name := by
  unfold Pin.name
  split
  · exact unbroken_append.2 ⟨by decide, unbroken_nat _⟩
  · exact unbroken_nat _
  · exact unbroken_nat _

theorem unbroken_role (role : Role) : Unbroken role.text := by
  cases role <;> decide

theorem unbroken_level (level : Level) : Unbroken level.text := by
  cases level <;> decide

theorem unbroken_plain {text : String} (h : IsPlain text.toList) : Unbroken text :=
  fun hmem => (h _ hmem).2.1 rfl

theorem unbroken_line {command : Command}
    (hn : isComponentName command.component = true) : Unbroken command.line :=
  unbroken_plain (line_plain hn)

/-- A plain text can stand between quotes. -/
theorem quoted_fits {text : String} (h : IsPlain text.toList) :
    Gap.quoted.Fits text.toList := by
  refine Gap.fits_of_forall (fun c hc => ?_) fun _ => rfl
  show (c != '"') = true
  simpa using (h c hc).2.2.1

/-- A number with fixed places has no line end. -/
theorem unbroken_fixed (places : Nat) (number : Binary64) :
    Unbroken (number.fixed places) :=
  unbroken_plain (isPlain_fixed places number)

-- ============================================== what lines begin with

namespace Sketch

/-- A line without line ends, blank or beginning with one of some
texts. -/
structure Line.Begins (heads : List String) (line : Line) : Prop where
  unbroken : Unbroken line.content
  head : line.content = "" ∨ ∃ head ∈ heads, head.toList <+: line.content.toList

instance (heads : List String) (line : Line) : Decidable (line.Begins heads) :=
  decidable_of_iff (Unbroken line.content ∧
      (line.content = "" ∨ ∃ head ∈ heads, head.toList <+: line.content.toList))
    ⟨fun h => ⟨h.1, h.2⟩, fun h => ⟨h.unbroken, h.head⟩⟩

/-- A line whose front is known. -/
theorem Line.begins {heads : List String} {line : Line} (head : String)
    (hmem : head ∈ heads) (hunbroken : Unbroken line.content)
    (hhead : head.toList <+: line.content.toList) : line.Begins heads :=
  ⟨hunbroken, .inr ⟨head, hmem, hhead⟩⟩

theorem prefix_append {head s t : String} (h : head.toList <+: s.toList) :
    head.toList <+: (s ++ t).toList := by
  rw [String.toList_append]
  exact h.trans (List.prefix_append ..)

theorem Line.Begins.mono {heads heads' : List String} {line : Line}
    (h : line.Begins heads) (hsub : heads ⊆ heads') : line.Begins heads' :=
  ⟨h.unbroken, h.head.imp_right fun ⟨head, hmem, hhead⟩ => ⟨head, hsub hmem, hhead⟩⟩

/-- A line is neat if nothing that it may begin with is empty or begins
with a space. -/
theorem Line.Begins.neat {heads : List String} {line : Line}
    (h : line.Begins heads)
    (hheads : ∀ head ∈ heads, head.toList ≠ [] ∧ head.toList.head? ≠ some ' ') :
    line.Neat := by
  refine ⟨h.unbroken, ?_⟩
  rcases h.head with hempty | ⟨head, hmem, rest, hrest⟩
  · rw [hempty]
    decide
  · obtain ⟨hne, hspace⟩ := hheads head hmem
    rw [← hrest, List.head?_append_of_ne_nil _ hne]
    exact hspace

/-- Whether a form reads no blank line and none that begins with one of
some texts. -/
def Form.skips (form : Form) (heads : List String) : Bool :=
  (form.read? []).isNone && heads.all form.rejects

theorem Form.skips_append {form : Form} {heads heads' : List String} :
    form.skips (heads ++ heads') = true
      ↔ form.skips heads = true ∧ form.skips heads' = true := by
  unfold Form.skips
  rw [List.all_append]
  cases (form.read? []).isNone with
  | false => simp
  | true => simp

/-- Of lines that a form skips it reads none. -/
theorem filterMap_skipped {form : Form} {heads : List String} {lines : List Line}
    (hbegins : ∀ line ∈ lines, line.Begins heads) (hskips : form.skips heads = true) :
    (lines.map fun line => line.content.toList).filterMap form.read? = [] := by
  unfold Form.skips at hskips
  rw [Bool.and_eq_true, Option.isNone_iff_eq_none, List.all_eq_true] at hskips
  obtain ⟨hblank, hrejects⟩ := hskips
  rw [List.filterMap_eq_nil_iff]
  intro text htext
  obtain ⟨line, hline, rfl⟩ := List.mem_map.1 htext
  rcases (hbegins line hline).head with hempty | ⟨head, hmem, hhead⟩
  · rw [hempty]
    exact hblank
  · exact Form.read?_of_rejects (hrejects head hmem) hhead

end Sketch

-- =========================================================== sections

/-- What the lines of the preamble begin with. -/
def preambleHeads : List String :=
  ["//", "#include <", "#define ACCUMULATOR_SIZE "]

/-- What the declarations of the motors' states begin with. -/
def stateHeads : List String := ["enum SpeedState ", "SpeedState "]

/-- What the declarations of the distance sensors begin with. -/
def sensorHeads : List String := ["VL53L0X "]

/-- What the declarations of variables begin with. -/
def globalsHeads : List String :=
  ["char accumulator[", "int accumulatorIndex"] ++ stateHeads ++ sensorHeads

/-- What the lines of the helpers begin with. -/
def helperHeads : List String :=
  ["static ", "float raw", "return (", "uint16_t range", "if (sensor.", "Serial.", "\x7d"]

/-- What the lines of the helpers and of the setup begin with. -/
def setupHeads : List String :=
  helperHeads ++ ["void setup() \x7b", "pinMode(", "Wire.begin();", "sensor"]

/-- What the lines of the dispatching function begin with, apart from its
header and the comparisons with commands. -/
def branchHeads : List String :=
  ["if (speedState", "analogWrite(", "speedState", "return;", "\x7d",
   "digitalWrite(", "char reply[", "dtostrf(", "Serial.write(", "dumpDistance(", "//"]

/-- What the lines of the dispatching function begin with. -/
def dispatchHeads : List String :=
  "void dispatchCommand(" :: "if (strcmp(command, " :: branchHeads

/-- What the lines of the loop begin with. -/
def loopHeads : List String :=
  ["void loop() \x7b", "while (", "int incoming", "if (incoming", "accumulator",
   "dispatchCommand(", "memset(", "\x7d"]

/-- What the lines after the declarations begin with. -/
def functionHeads : List String := setupHeads ++ dispatchHeads ++ loopHeads

namespace Firmware

/-- The comments and the libraries. -/
def prologue (ranging : Bool) : List Line :=
  [.plain "// KINETIC serial endpoint",
   .plain "// Generated file, regenerate from the agent definition instead of editing.",
   .blank,
   .plain "#include <Arduino.h>"] ++
  (if ranging then [.plain "#include <Wire.h>", .plain "#include <VL53L0X.h>"] else []) ++
  [.blank]

theorem preamble_parts (firmware : Firmware) (ranging : Bool) :
    firmware.preamble ranging = prologue ranging ++
      [.plain ("#define ACCUMULATOR_SIZE " ++ toString firmware.accumulatorSize),
       .blank] := by
  cases ranging <;> rfl

theorem preamble_begins (firmware : Firmware) (ranging : Bool) :
    ∀ line ∈ firmware.preamble ranging, line.Begins preambleHeads := by
  rw [preamble_parts]
  simp only [List.forall_mem_append, List.forall_mem_cons]
  refine ⟨by cases ranging <;> decide +kernel, ?_, by decide⟩
  refine Line.begins "#define ACCUMULATOR_SIZE " (by decide) ?_ ?_
  · exact unbroken_append.2 ⟨by decide, unbroken_nat _⟩
  · exact prefix_append (by decide)

/-- The declarations of the motors' states. -/
def stateLines (motors : List Assignment) : List Line :=
  if motors = [] then [] else
    [.blank, .plain "enum SpeedState \x7b SPEED_IDLE, SPEED_AWAITING_PARAM \x7d;"] ++
    motors.map fun a => .plain ("SpeedState " ++ a.speedVariable ++ " = SPEED_IDLE;")

/-- The declarations of the distance sensors. -/
def sensorLines (sensors : List Assignment) : List Line :=
  if sensors = [] then [] else
    .blank :: sensors.map fun a => .plain ("VL53L0X " ++ a.sensorVariable ++ ";")

/-- The declarations are those of the accumulator, of the motors' states and
of the distance sensors. -/
theorem globals_parts (assignments : List Assignment) :
    globals assignments =
      [.plain "char accumulator[ACCUMULATOR_SIZE + 1];", .plain "int accumulatorIndex = 0;"] ++
      stateLines (speedMotors assignments) ++ sensorLines (distanceSensors assignments) ++
      [.blank] :=
  rfl

theorem stateLines_begins {motors : List Assignment}
    (hnamed : ∀ a ∈ motors, isComponentName a.name = true) :
    ∀ line ∈ stateLines motors, line.Begins stateHeads := by
  unfold stateLines
  split
  · exact fun line hline => absurd hline List.not_mem_nil
  · rw [List.forall_mem_append, List.forall_mem_map]
    refine ⟨by decide, fun a ha => ?_⟩
    have hname := unbroken_name (hnamed a ha)
    refine Line.begins "SpeedState " (by decide) ?_ ?_
    · unfold Assignment.speedVariable
      simp only [Line.content, unbroken_append, hname]
      decide
    · exact prefix_append (prefix_append (by decide))

theorem sensorLines_begins {sensors : List Assignment}
    (hnamed : ∀ a ∈ sensors, isComponentName a.name = true) :
    ∀ line ∈ sensorLines sensors, line.Begins sensorHeads := by
  unfold sensorLines
  split
  · exact fun line hline => absurd hline List.not_mem_nil
  · rw [List.forall_mem_cons, List.forall_mem_map]
    refine ⟨by decide, fun a ha => ?_⟩
    have hname := unbroken_name (hnamed a ha)
    refine Line.begins "VL53L0X " (by decide) ?_ ?_
    · unfold Assignment.sensorVariable
      simp only [Line.content, unbroken_append, hname]
      decide
    · exact prefix_append (prefix_append (by decide))

theorem globals_begins {assignments : List Assignment}
    (hnamed : ∀ a ∈ assignments, isComponentName a.name = true) :
    ∀ line ∈ globals assignments, line.Begins globalsHeads := by
  have hmotors : ∀ a ∈ speedMotors assignments, isComponentName a.name = true :=
    fun a ha => hnamed a (List.mem_filter.1 ha).1
  have hsensors : ∀ a ∈ distanceSensors assignments, isComponentName a.name = true :=
    fun a ha => hnamed a (List.mem_filter.1 ha).1
  have hstates : stateHeads ⊆ globalsHeads := by decide
  have hsensorHeads : sensorHeads ⊆ globalsHeads := by decide
  rw [globals_parts]
  simp only [List.forall_mem_append]
  exact ⟨⟨⟨by decide, fun line hl => (stateLines_begins hmotors line hl).mono hstates⟩,
    fun line hl => (sensorLines_begins hsensors line hl).mono hsensorHeads⟩, by decide⟩

/-- The voltage helper is fixed but for three numbers. -/
theorem voltageHelper_begins (firmware : Firmware) :
    ∀ line ∈ firmware.voltageHelper, line.Begins helperHeads := by
  unfold voltageHelper
  simp only [List.forall_mem_cons]
  refine ⟨by decide, by decide, ?_, by decide⟩
  refine Line.begins "return (" (by decide) ?_ ?_
  · simp only [Line.content, unbroken_append, unbroken_fixed, and_true]
    decide
  · exact prefix_append (prefix_append (prefix_append (prefix_append
      (prefix_append (prefix_append (by decide))))))

/-- The distance helper is fixed but for the timeout token. -/
theorem distanceHelper_begins {firmware : Firmware}
    (haccepted : firmware.refusal? = none) :
    ∀ line ∈ firmware.distanceHelper, line.Begins helperHeads := by
  have htoken := unbroken_plain (isPlain_token (token_of_accepted haccepted))
  unfold distanceHelper
  simp only [List.forall_mem_cons]
  refine ⟨by decide, by decide, by decide, ?_, by decide⟩
  refine Line.begins "Serial." (by decide) ?_ ?_
  · simp only [Line.content, unbroken_append, htoken]
    decide
  · exact prefix_append (prefix_append (by decide))

/-- The setup sets modes of pins and starts the sensors. -/
theorem setup_begins {firmware : Firmware} {assignments : List Assignment}
    (hnamed : ∀ a ∈ assignments, isComponentName a.name = true) :
    ∀ line ∈ firmware.setup assignments, line.Begins setupHeads := by
  unfold setup
  simp only [List.forall_mem_append, List.forall_mem_cons, List.forall_mem_flatMap]
  refine ⟨⟨⟨⟨by decide, ?_, by decide⟩, fun a ha => ?_⟩, ?_⟩, by decide⟩
  -- the baud rate
  · refine Line.begins "Serial." (by decide) ?_ ?_
    · simp only [Line.content, unbroken_append, unbroken_nat]
      decide
    · exact prefix_append (prefix_append (by decide))
  -- the modes of the pins
  · have hname := unbroken_name (hnamed a ha)
    unfold pinModes
    rw [List.forall_mem_map]
    intro ⟨role, pin⟩ _
    refine Line.begins "pinMode(" (by decide) ?_ ?_
    · simp only [Line.content, unbroken_append, unbroken_pin, unbroken_role, hname]
      decide
    · exact prefix_append (prefix_append (prefix_append (prefix_append
        (prefix_append (by decide)))))
  -- the sensors, if there are any
  · split
    · exact fun line hline => absurd hline List.not_mem_nil
    · rw [List.forall_mem_cons, List.forall_mem_flatMap]
      refine ⟨by decide, fun a ha => ?_⟩
      have hname := unbroken_name (hnamed a (List.mem_filter.1 ha).1)
      unfold sensorStart Assignment.sensorVariable
      simp only [List.forall_mem_cons]
      refine ⟨?_, ?_, fun line hline => absurd hline List.not_mem_nil⟩
      · refine Line.begins "sensor" (by decide) ?_ ?_
        · simp only [Line.content, unbroken_append, unbroken_nat, hname]
          decide
        · exact prefix_append (prefix_append (prefix_append (prefix_append
            (by decide))))
      · refine Line.begins "sensor" (by decide) ?_ ?_
        · simp only [Line.content, unbroken_append, hname]
          decide
        · exact prefix_append (prefix_append (by decide))

theorem loop_begins : ∀ line ∈ loop, line.Begins loopHeads := by
  decide +kernel

/-- The branch that takes a duty has no comparison with a command. -/
theorem dutyBranch_begins {a : Assignment} (hn : isComponentName a.name = true) :
    ∀ line ∈ dutyBranch a, line.Begins branchHeads := by
  have hname := unbroken_name hn
  unfold dutyBranch Assignment.speedVariable
  cases a.pin? .pwm with
  | none => exact fun line hline => absurd hline List.not_mem_nil
  | some pin =>
      simp only [List.forall_mem_cons]
      refine ⟨?_, ?_, ?_, by decide⟩
      · refine Line.begins "if (speedState" (by decide) ?_ ?_
        · simp only [Line.content, unbroken_append, hname]
          decide
        · rw [Line.content, ← String.append_assoc]
          exact prefix_append (prefix_append (prefix_append (by decide)))
      · refine Line.begins "analogWrite(" (by decide) ?_ ?_
        · simp only [Line.content, unbroken_append, unbroken_pin]
          decide
        · exact prefix_append (prefix_append (by decide))
      · refine Line.begins "speedState" (by decide) ?_ ?_
        · simp only [Line.content, unbroken_append, hname]
          decide
        · exact prefix_append (prefix_append (by decide))

theorem actionLines_begins (firmware : Firmware) {a : Assignment}
    (hn : isComponentName a.name = true) (action : Action) :
    ∀ line ∈ firmware.actionLines a action, line.Begins branchHeads := by
  have hname := unbroken_name hn
  unfold actionLines Assignment.speedVariable Assignment.sensorVariable
  cases action with
  | write pin level =>
      rw [List.forall_mem_singleton]
      refine Line.begins "digitalWrite(" (by decide) ?_ ?_
      · simp only [Line.content, unbroken_append, unbroken_pin, unbroken_level]
        decide
      · exact prefix_append (prefix_append (prefix_append (prefix_append
          (by decide))))
  | awaitSpeed pwm =>
      rw [List.forall_mem_singleton]
      refine Line.begins "speedState" (by decide) ?_ ?_
      · simp only [Line.content, unbroken_append, hname]
        decide
      · exact prefix_append (prefix_append (by decide))
  | readVoltage pin =>
      simp only [List.forall_mem_cons]
      refine ⟨?_, ?_, by decide⟩
      · refine Line.begins "char reply[" (by decide) ?_ ?_
        · simp only [Line.content, unbroken_append, unbroken_nat]
          decide
        · exact prefix_append (prefix_append (by decide))
      · refine Line.begins "dtostrf(" (by decide) ?_ ?_
        · simp only [Line.content, unbroken_append, unbroken_pin, unbroken_nat]
          decide
        · exact prefix_append (prefix_append (prefix_append (prefix_append
            (by decide))))
  | readDistance =>
      rw [List.forall_mem_singleton]
      refine Line.begins "dumpDistance(" (by decide) ?_ ?_
      · simp only [Line.content, unbroken_append, hname]
        decide
      · exact prefix_append (prefix_append (by decide))
  | placeholder =>
      rw [List.forall_mem_singleton]
      refine Line.begins "//" (by decide) ?_ ?_
      · simp only [Line.content, unbroken_append, hname]
        decide
      · exact prefix_append (prefix_append (by decide))

theorem commandBranch_begins (firmware : Firmware) {a : Assignment}
    (hn : isComponentName a.name = true) {command : Command}
    (hc : command ∈ a.commands) :
    ∀ line ∈ firmware.commandBranch a command, line.Begins dispatchHeads := by
  have hline := unbroken_line (commands_component a command hc ▸ hn)
  have hsub : branchHeads ⊆ dispatchHeads := by decide
  unfold commandBranch
  rw [List.forall_mem_append, List.forall_mem_append, List.forall_mem_singleton]
  refine ⟨⟨?_, fun line hl => ?_⟩, by decide⟩
  · refine Line.begins "if (strcmp(command, " (by decide) ?_ ?_
    · simp only [Line.content, unbroken_append, hline]
      decide
    · exact prefix_append (prefix_append (prefix_append (by decide)))
  · exact (actionLines_begins firmware hn command.action line hl).mono hsub

theorem dispatch_begins (firmware : Firmware) {assignments : List Assignment}
    (hnamed : ∀ a ∈ assignments, isComponentName a.name = true) :
    ∀ line ∈ firmware.dispatch assignments, line.Begins dispatchHeads := by
  have hsub : branchHeads ⊆ dispatchHeads := by decide
  unfold dispatch
  simp only [List.forall_mem_append, List.forall_mem_flatMap]
  refine ⟨⟨⟨by decide, fun a ha line hline => ?_⟩, fun a ha => ?_⟩, by decide⟩
  · exact (dutyBranch_begins (hnamed a ha) line hline).mono hsub
  · unfold componentBranches
    rw [List.forall_mem_flatMap]
    exact fun command hc => commandBranch_begins firmware (hnamed a ha) hc

-- ============================================================ the whole

/-- The helpers that are needed. -/
def helpers (firmware : Firmware) (assignments : List Assignment) : List Line :=
  (if hasVoltageSensor assignments then firmware.voltageHelper else []) ++
  (if distanceSensors assignments ≠ [] then firmware.distanceHelper else [])

/-- The helpers that are needed, and the setup. -/
def setupPart (firmware : Firmware) (assignments : List Assignment) : List Line :=
  firmware.helpers assignments ++ firmware.setup assignments

theorem sketchLines_sections (firmware : Firmware) (assignments : List Assignment) :
    firmware.sketchLines assignments =
      firmware.preamble (distanceSensors assignments ≠ []) ++ (globals assignments ++
        (firmware.setupPart assignments ++ (firmware.dispatch assignments ++ loop))) := by
  unfold sketchLines setupPart helpers
  simp only [List.append_assoc]

theorem helpers_begins {firmware : Firmware} (haccepted : firmware.refusal? = none)
    (assignments : List Assignment) :
    ∀ line ∈ firmware.helpers assignments, line.Begins helperHeads := by
  unfold helpers
  rw [List.forall_mem_append]
  constructor
  · split
    · exact voltageHelper_begins firmware
    · exact fun line hline => absurd hline List.not_mem_nil
  · split
    · exact distanceHelper_begins haccepted
    · exact fun line hline => absurd hline List.not_mem_nil

theorem setupPart_begins {firmware : Firmware} {assignments : List Assignment}
    (haccepted : firmware.refusal? = none)
    (hnamed : ∀ a ∈ assignments, isComponentName a.name = true) :
    ∀ line ∈ firmware.setupPart assignments, line.Begins setupHeads := by
  have hsub : helperHeads ⊆ setupHeads := by decide
  unfold setupPart
  rw [List.forall_mem_append]
  exact ⟨fun line hl => (helpers_begins haccepted assignments line hl).mono hsub,
    setup_begins hnamed⟩

theorem sketchLines_neat {firmware : Firmware} {assignments : List Assignment}
    (haccepted : firmware.refusal? = none)
    (hnamed : ∀ a ∈ assignments, isComponentName a.name = true) :
    ∀ line ∈ firmware.sketchLines assignments, line.Neat := by
  rw [sketchLines_sections]
  simp only [List.forall_mem_append]
  exact ⟨fun line hl => (preamble_begins _ _ line hl).neat (by decide +kernel),
    fun line hl => (globals_begins hnamed line hl).neat (by decide +kernel),
    fun line hl => (setupPart_begins haccepted hnamed line hl).neat (by decide +kernel),
    fun line hl => (dispatch_begins _ hnamed line hl).neat (by decide +kernel),
    fun line hl => (loop_begins line hl).neat (by decide +kernel)⟩

/-- The lines of a sketch are read back as they are. -/
theorem sourceLines_sketch {firmware : Firmware} {assignments : List Assignment}
    (haccepted : firmware.refusal? = none)
    (hnamed : ∀ a ∈ assignments, isComponentName a.name = true) :
    sourceLines (firmware.sketch assignments)
      = (firmware.sketchLines assignments).map fun line => line.content.toList :=
  sourceLines_text (sketchLines_neat haccepted hnamed)

end Firmware

end SerialEndpoint
