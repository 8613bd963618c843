/-
A sketch is read as its program (`read?_sketch`). `Firmware.program` says
which program that is: for every motor a branch that takes its duty, for every
command a branch that compares and acts, in the order of the assignments, and
a loop that is the same in every sketch.

# What is said of some lines

The lines of a body are read one after the other into a draft, so what some
lines mean depends on what was read before them. The layout, on the other
hand, puts lines together without regard to that. The two meet in statements
that hold for every draft and for all lines that come after:

- `Instructs`: inside a branch, the lines add these instructions to the body
  that is open;
- `Reads`: between branches, with nothing open, the lines add these items.

Either goes along with putting lines together (`Instructs.append`,
`Reads.append`, `Reads.flatMap`), and the first leads to the second: a header,
lines that instruct and the end of the block are one item (`Reads.branch`).
Nothing else opens or closes a branch, so these few lemmas follow the layout
of a body from its lines up to the whole.

# From the lines up

- A line fills the form of its kind, and then it says what the kind says
  (`statement?_fill`). What has to be seen for each kind is that the values
  fit the gaps: a number is digits, a name is a word, and a command holds no
  quote.
- What is done on a command is read as its instructions
  (`instructs_actionLines`). Here the wiring comes in: a digital pin is
  written as its number and an analog one with an `A` in front, so the lines
  only read back as they should for pins of the right pool (`Action.Wired`).
- The branches follow, for duties (`reads_dutyBranch`) and for commands
  (`reads_commandBranch`), and with them the function that takes a line
  (`dispatchItems?_sketch`).

# What stands elsewhere

The capacity, the accumulator, its first index and the states are read by one
form each, from all lines of the sketch. A form skips every section whose
lines begin with something that it rejects, so only the section is left that
the value stands in (`filterMap_declared`, `filterMap_globals`). The loop is
found behind everything else in the same way, as no line before it is of the
form of its header.
-/
import SerialEndpoint.Proofs.Number.Reading
import SerialEndpoint.Proofs.Sketch.Sections
import SerialEndpoint.Proofs.Sketch.Program

namespace SerialEndpoint

open Sketch

-- ========================================================= the program

/-- The branch that takes the duty of a motor. -/
def Assignment.dutyItems (a : Assignment) : List Item :=
  match a.pin? .pwm with
  | none => []
  | some pin =>
    [.choice [(.waits a.speedVariable,
      [.analogWrite pin.number 0 fullDuty, .setState a.speedVariable false, .leave])]]

namespace Firmware

/-- What is done on a command. -/
def instructions (firmware : Firmware) (a : Assignment) : Action → List Instruction
  | .write pin level => [.digitalWrite pin.number level]
  | .awaitSpeed _ => [.setState a.speedVariable true]
  | .readVoltage pin =>
    [.declareReply firmware.voltage.replyCapacity,
     .formatVoltage pin.number firmware.voltage.precision, .writeReply, .writeLineEnd]
  | .readDistance => [.dumpDistance a.sensorVariable]
  | .placeholder => []

/-- The branch of a command. -/
def commandItem (firmware : Firmware) (a : Assignment) (command : Command) : Item :=
  .choice [(.equals command.line, firmware.instructions a command.action ++ [.leave])]

/-- The loop of every sketch. -/
def loopItems : List Item :=
  [.step .receive,
   .choice
     [(.incomingIs lineEnd, [.terminate, .dispatch, .rewind, .clear]),
      (.hasRoom, [.store, .advance])]]

/-- The program of a sketch. -/
def program (firmware : Firmware) (assignments : List Assignment) : Sketch.Program where
  capacity := firmware.accumulatorSize
  bufferSize := firmware.accumulatorSize + 1
  firstIndex := 0
  states := (speedMotors assignments).map Assignment.speedVariable
  dispatch := assignments.flatMap Assignment.dutyItems ++
    assignments.flatMap fun a => a.commands.map (firmware.commandItem a)
  loop := loopItems

end Firmware

-- ======================================================= what fills gaps

theorem number?_digits (n : Nat) : number? (toString n) = some n := readDigits?_digits n

theorem byte?_digits (b : UInt8) : byte? (toString b.toNat) = some b := by
  have hlt : b.toNat < 256 := b.toNat_lt
  unfold byte?
  rw [number?_digits]
  simp [hlt]

theorem level?_text (level : Level) : level? level.text = some level := by
  cases level <;> rfl

theorem number_fits (n : Nat) : Gap.number.Fits (toString n).toList :=
  Gap.fits_of_forall (isDigit_nat n) fun hnil => absurd hnil (digits_ne_nil n)

theorem word_fits {name : String} (hn : isComponentName name = true) :
    Gap.word.Fits name.toList :=
  Gap.fits_of_forall (name_chars hn) fun hnil => absurd hnil (name_ne_nil hn)

namespace Sketch

-- ================================================================= lines

theorem delimited_form (kind : LineKind) : delimited kind.form.parts = true := by
  cases kind <;> decide

/-- A line that fills the form of a kind says what the kind says. -/
theorem statement?_fill (kind : LineKind) (values : List String) {text : List Char}
    {statement : Statement} (htext : text = kind.form.fill values)
    (hfits : List.Forall₂ (fun part value => part.1.Fits value.toList)
      kind.form.parts values)
    (hmeans : kind.statement? values = some statement) :
    statement? text = some statement := by
  rw [htext, statement?_of_read? (Form.read?_fill (delimited_form kind) hfits), hmeans]

theorem statement?_waits {name : String} (hn : isComponentName name = true) :
    statement? ("if (" ++ ("speedState" ++ name) ++ " == SPEED_AWAITING_PARAM)"
        ++ " \x7b").toList
      = some (.opening (.waits ("speedState" ++ name))) := by
  refine statement?_fill .waits [name] ?_ (.cons (word_fits hn) .nil) rfl
  simp [Form.fill, fillParts, LineKind.form]

theorem statement?_analogWrite (pin : UInt8) :
    statement? ("analogWrite(" ++ toString pin.toNat
        ++ ", constrain(atoi(command), 0, 255));").toList
      = some (.instruct (.analogWrite pin 0 fullDuty)) := by
  have hlow : number? "0" = some 0 := by decide
  have hhigh : number? "255" = some fullDuty := by decide
  refine statement?_fill .analogWrite [toString pin.toNat, "0", "255"] ?_
    (.cons (number_fits _) (.cons (by decide) (.cons (by decide) .nil))) ?_
  · simp [Form.fill, fillParts, LineKind.form]
  · unfold LineKind.statement?
    simp only [byte?_digits, hlow, hhigh]
    rfl

theorem statement?_setState {name : String} (hn : isComponentName name = true)
    {state rest : String} {waiting : Bool} (hrest : rest = " = " ++ state ++ ";")
    (hword : Gap.word.Fits state.toList) (hstate : waiting? state = some waiting) :
    statement? ("speedState" ++ name ++ rest).toList
      = some (.instruct (.setState ("speedState" ++ name) waiting)) := by
  subst hrest
  refine statement?_fill .setState [name, state] ?_
    (.cons (word_fits hn) (.cons hword .nil)) ?_
  · simp [Form.fill, fillParts, LineKind.form]
  · unfold LineKind.statement?
    simp only [hstate]
    rfl

theorem statement?_idle {name : String} (hn : isComponentName name = true) :
    statement? ("speedState" ++ name ++ " = SPEED_IDLE;").toList
      = some (.instruct (.setState ("speedState" ++ name) false)) :=
  have hrest : " = SPEED_IDLE;" = " = " ++ "SPEED_IDLE" ++ ";" := by decide
  statement?_setState hn hrest (by decide) rfl

theorem statement?_awaiting {name : String} (hn : isComponentName name = true) :
    statement? ("speedState" ++ name ++ " = SPEED_AWAITING_PARAM;").toList
      = some (.instruct (.setState ("speedState" ++ name) true)) :=
  have hrest : " = SPEED_AWAITING_PARAM;" = " = " ++ "SPEED_AWAITING_PARAM" ++ ";" := by
    decide
  statement?_setState hn hrest (by decide) rfl

theorem statement?_equals {line : String} (hplain : IsPlain line.toList) :
    statement? ("if (strcmp(command, \"" ++ line ++ "\") == 0)" ++ " \x7b").toList
      = some (.opening (.equals line)) := by
  refine statement?_fill .equals [line] ?_ (.cons (quoted_fits hplain) .nil) rfl
  simp [Form.fill, fillParts, LineKind.form, commandForm]

theorem statement?_digitalWrite (pin : UInt8) (level : Level) :
    statement? ("digitalWrite(" ++ toString pin.toNat ++ ", " ++ level.text ++ ");").toList
      = some (.instruct (.digitalWrite pin level)) := by
  have hword : Gap.word.Fits level.text.toList := by
    cases level <;> decide
  refine statement?_fill .digitalWrite [toString pin.toNat, level.text] ?_
    (.cons (number_fits _) (.cons hword .nil)) ?_
  · simp [Form.fill, fillParts, LineKind.form]
  · unfold LineKind.statement?
    simp only [byte?_digits, level?_text]
    rfl

theorem statement?_declareReply (size : Nat) :
    statement? ("char reply[" ++ toString size ++ "];").toList
      = some (.instruct (.declareReply size)) := by
  refine statement?_fill .declareReply [toString size] ?_ (.cons (number_fits _) .nil) ?_
  · simp [Form.fill, fillParts, LineKind.form]
  · unfold LineKind.statement?
    simp only [number?_digits]
    rfl

theorem statement?_formatVoltage (pin : UInt8) (places : Nat) :
    statement? ("dtostrf(readVoltage(" ++ ("A" ++ toString pin.toNat) ++ "), 1, "
        ++ toString places ++ ", reply);").toList
      = some (.instruct (.formatVoltage pin places)) := by
  refine statement?_fill .formatVoltage [toString pin.toNat, toString places] ?_
    (.cons (number_fits _) (.cons (number_fits _) .nil)) ?_
  · simp [Form.fill, fillParts, LineKind.form]
  · unfold LineKind.statement?
    simp only [byte?_digits, number?_digits]
    rfl

theorem statement?_dumpDistance {name : String} (hn : isComponentName name = true) :
    statement? ("dumpDistance(" ++ ("sensor" ++ name) ++ ");").toList
      = some (.instruct (.dumpDistance ("sensor" ++ name))) := by
  have hhead : "sensor".toList.all Gap.word.admits = true := by decide
  have hsensor : Gap.word.Fits ("sensor" ++ name).toList := by
    rw [String.toList_append]
    refine Gap.fits_of_forall ?_ ?_
    · intro c hc
      rcases List.mem_append.1 hc with hc | hc
      · exact List.all_eq_true.1 hhead c hc
      · exact name_chars hn c hc
    · intro hnil
      cases (List.append_eq_nil_iff.1 hnil).1
  refine statement?_fill .dumpDistance ["sensor" ++ name] ?_ (.cons hsensor .nil) rfl
  simp [Form.fill, fillParts, LineKind.form]

theorem statement?_remark (text : String) :
    statement? ("//" ++ text).toList = some .nothing := by
  refine statement?_fill .remark [text] ?_
    (.cons (Gap.fits_of_forall (fun _ _ => rfl) fun _ => rfl) .nil) rfl
  simp [Form.fill, fillParts, LineKind.form]

-- ================================================================ bodies

/-- Inside a branch these lines add these instructions. -/
def Instructs (lines : List Line) (instructions : List Instruction) : Prop :=
  ∀ (draft : Draft) (guard : Guard) (body : List Instruction) (rest : List (List Char)),
    readBody? { draft with current := some (guard, body) }
        ((lines.map fun line => line.content.toList) ++ rest)
      = readBody? { draft with current := some (guard, body ++ instructions) } rest

/-- Between branches these lines add these items. -/
def Reads (lines : List Line) (items : List Item) : Prop :=
  ∀ (before : List Item) (rest : List (List Char)),
    readBody? { items := before } ((lines.map fun line => line.content.toList) ++ rest)
      = readBody? { items := before ++ items } rest

theorem Instructs.single {line : Line} {instruction : Instruction}
    (h : statement? line.content.toList = some (.instruct instruction)) :
    Instructs [line] [instruction] := by
  intro draft guard body rest
  show readBody? _ (line.content.toList :: rest) = _
  rw [readBody?, h]
  rfl

theorem Instructs.nothing {line : Line}
    (h : statement? line.content.toList = some .nothing) : Instructs [line] [] := by
  intro draft guard body rest
  show readBody? _ (line.content.toList :: rest) = _
  rw [readBody?, h, List.append_nil]
  rfl

theorem Instructs.append {lines lines' : List Line}
    {instructions instructions' : List Instruction}
    (h : Instructs lines instructions) (h' : Instructs lines' instructions') :
    Instructs (lines ++ lines') (instructions ++ instructions') := by
  intro draft guard body rest
  rw [List.map_append, List.append_assoc, h draft guard body, h' draft guard,
    List.append_assoc]

theorem Reads.nil : Reads [] [] := by
  intro before rest
  rw [List.append_nil]
  rfl

theorem Reads.append {lines lines' : List Line} {items items' : List Item}
    (h : Reads lines items) (h' : Reads lines' items') :
    Reads (lines ++ lines') (items ++ items') := by
  intro before rest
  rw [List.map_append, List.append_assoc, h before, h', List.append_assoc]

theorem Reads.flatMap {α : Type} {f : α → List Line} {g : α → List Item}
    {xs : List α} (h : ∀ x ∈ xs, Reads (f x) (g x)) :
    Reads (xs.flatMap f) (xs.flatMap g) := by
  induction xs with
  | nil => exact .nil
  | cons x rest ih =>
      rw [List.flatMap_cons, List.flatMap_cons]
      exact (h x (List.mem_cons_self ..)).append
        (ih fun y hy => h y (List.mem_cons_of_mem _ hy))

/-- A header, what stands under it and its end are one choice. -/
theorem Reads.branch {header : Line} {guard : Guard} {lines : List Line}
    {instructions : List Instruction}
    (hheader : statement? header.content.toList = some (.opening guard))
    (hbody : Instructs lines instructions) :
    Reads (header :: lines ++ [.closing]) [.choice [(guard, instructions)]] := by
  intro before rest
  have hclosing : statement? Line.closing.content.toList = some .closing := by decide
  rw [List.map_append, List.map_cons, List.append_assoc, List.cons_append, readBody?,
    hheader]
  show readBody? { items := before, current := some (guard, []) } _ = _
  rw [hbody { items := before } guard []]
  show readBody? _ (Line.closing.content.toList :: rest) = _
  rw [readBody?, hclosing]
  rfl

end Sketch

-- ========================================================= the branches

/-- An action on pins of the pools that its instructions name. -/
def Action.Wired : Action → Prop
  | .write pin _ => pin.category = .digital
  | .awaitSpeed pwm => pwm.category = .pwm
  | .readVoltage pin => pin.category = .analog
  | .readDistance | .placeholder => True

theorem commands_wired {a : Assignment} (hf : Wiring.Fits a.kind a.wiring) :
    ∀ c ∈ a.commands, c.action.Wired := by
  unfold Assignment.commands
  generalize a.kind = kind at hf
  generalize a.wiring = wiring at hf
  cases hf with
  | motor pwm direction brake =>
      cases pwm <;> cases direction <;> simp [Action.Wired]
  | voltageSensor collect => simp [Action.Wired]
  | switch control => simp [Action.Wired]
  | distanceSensor => simp [Action.Wired]
  | generic ignored => cases ignored <;> simp [Action.Wired]

theorem category_of_pwm {a : Assignment} (hf : Wiring.Fits a.kind a.wiring) {pin : Pin}
    (hpin : a.pin? .pwm = some pin) : pin.category = .pwm := by
  unfold Assignment.pin? Assignment.roles at hpin
  generalize a.kind = kind at hf
  generalize a.wiring = wiring at hf hpin
  cases hf with
  | motor pwm direction brake =>
      cases pwm with
      | none => cases direction <;> cases hpin
      | some number =>
          cases hpin
          rfl
  | voltageSensor collect => cases hpin
  | switch control => cases hpin
  | distanceSensor => cases hpin
  | generic ignored => cases hpin

theorem name_of_digital {pin : Pin} (h : pin.category ≠ .analog) :
    pin.name = toString pin.number.toNat := by
  unfold Pin.name
  split
  · contradiction
  · rfl
  · rfl

theorem name_of_analog {pin : Pin} (h : pin.category = .analog) :
    pin.name = "A" ++ toString pin.number.toNat := by
  unfold Pin.name
  rw [h]

theorem reads_dutyBranch {a : Assignment} (hn : isComponentName a.name = true)
    (hf : Wiring.Fits a.kind a.wiring) : Reads (Firmware.dutyBranch a) a.dutyItems := by
  unfold Firmware.dutyBranch Assignment.dutyItems
  cases hpin : a.pin? .pwm with
  | none => exact .nil
  | some pin =>
      have hpwm := category_of_pwm hf hpin
      have hname := name_of_digital (by rw [hpwm]; decide)
      simp only [hname]
      have hleave : Instructs [.plain "return;"] [.leave] := .single (by decide)
      have hduty : Instructs [.plain ("analogWrite(" ++ toString pin.number.toNat
          ++ ", constrain(atoi(command), 0, 255));")] [.analogWrite pin.number 0 fullDuty] :=
        .single (statement?_analogWrite pin.number)
      have hidle : Instructs [.plain (a.speedVariable ++ " = SPEED_IDLE;")]
          [.setState a.speedVariable false] :=
        .single (statement?_idle hn)
      have hheader : statement? (Line.opening
          ("if (" ++ a.speedVariable ++ " == SPEED_AWAITING_PARAM)")).content.toList
            = some (.opening (.waits a.speedVariable)) := statement?_waits hn
      exact Reads.branch hheader (hduty.append (hidle.append hleave))

/-- A voltage is read into a reply of its own, and the reply is written. -/
theorem instructs_voltage (pin : UInt8) (size places : Nat) :
    Instructs
      [.plain ("char reply[" ++ toString size ++ "];"),
       .plain ("dtostrf(readVoltage(" ++ ("A" ++ toString pin.toNat) ++ "), 1, " ++
         toString places ++ ", reply);"),
       .plain "Serial.write(reply);", .plain "Serial.write('\\n');"]
      [.declareReply size, .formatVoltage pin places, .writeReply, .writeLineEnd] := by
  have hdeclare : Instructs [.plain ("char reply[" ++ toString size ++ "];")]
      [.declareReply size] := .single (statement?_declareReply size)
  have hformat : Instructs [.plain ("dtostrf(readVoltage(" ++ ("A" ++ toString pin.toNat)
      ++ "), 1, " ++ toString places ++ ", reply);")] [.formatVoltage pin places] :=
    .single (statement?_formatVoltage pin places)
  have hreply : Instructs [.plain "Serial.write(reply);"] [.writeReply] :=
    .single (by decide)
  have hend : Instructs [.plain "Serial.write('\\n');"] [.writeLineEnd] :=
    .single (by decide)
  exact hdeclare.append (hformat.append (hreply.append hend))

/-- What is done on a command is read as its instructions. -/
theorem instructs_actionLines (firmware : Firmware) {a : Assignment}
    (hn : isComponentName a.name = true) {action : Action} (hw : action.Wired) :
    Instructs (firmware.actionLines a action) (firmware.instructions a action) := by
  unfold Firmware.actionLines Firmware.instructions
  cases action with
  | write pin level =>
      have hdigital : pin.category = .digital := hw
      have hname := name_of_digital (by rw [hdigital]; decide)
      simp only [hname]
      exact .single (statement?_digitalWrite pin.number level)
  | awaitSpeed pwm => exact .single (statement?_awaiting hn)
  | readVoltage pin =>
      have hname := name_of_analog hw
      simp only [hname]
      exact instructs_voltage pin.number _ _
  | readDistance => exact .single (statement?_dumpDistance hn)
  | placeholder =>
      have hremark := statement?_remark (" insert command logic for " ++ a.name ++ " here")
      simp only [← String.append_assoc] at hremark
      exact .nothing hremark

/-- The branch of a command is read as its item. -/
theorem reads_commandBranch (firmware : Firmware) {a : Assignment}
    (hn : isComponentName a.name = true) (hf : Wiring.Fits a.kind a.wiring)
    {command : Command} (hc : command ∈ a.commands) :
    Reads (firmware.commandBranch a command) [firmware.commandItem a command] := by
  have hplain := line_plain (commands_component a command hc ▸ hn)
  have hleave : Instructs [.plain "return;"] [.leave] := .single (by decide)
  have hbody := (instructs_actionLines firmware hn (commands_wired hf command hc)).append
    hleave
  have hheader : statement? (Line.opening
      ("if (strcmp(command, \"" ++ command.line ++ "\") == 0)")).content.toList
        = some (.opening (.equals command.line)) := statement?_equals hplain
  have hread := Reads.branch hheader hbody
  unfold Firmware.commandBranch
  rw [List.append_assoc, List.singleton_append]
  rw [List.cons_append, List.append_assoc] at hread
  exact hread

-- ============================================================ the whole

namespace Sketch

/-- Lines that a form does not read are passed over. -/
theorem after?_append {form : Form} {lines rest : List (List Char)}
    (h : lines.filterMap form.read? = []) :
    after? form (lines ++ rest) = after? form rest := by
  induction lines with
  | nil => rfl
  | cons line lines ih =>
      rw [List.filterMap_eq_nil_iff] at h
      have hline := h line (List.mem_cons_self ..)
      have hlines := ih (List.filterMap_eq_nil_iff.2
        fun l hl => h l (List.mem_cons_of_mem _ hl))
      rw [List.cons_append, after?, hline]
      exact hlines

end Sketch

namespace Firmware

variable {firmware : Firmware} {assignments : List Assignment}

/-- The function that takes a line is read up to its end. -/
theorem dispatchItems?_sketch (haccepted : firmware.refusal? = none)
    (hs : Served assignments) :
    dispatchItems? ((firmware.sketchLines assignments).map fun line => line.content.toList)
      = some (firmware.program assignments).dispatch := by
  have hduties : Reads (assignments.flatMap dutyBranch)
      (assignments.flatMap Assignment.dutyItems) :=
    Reads.flatMap fun a ha => reads_dutyBranch (hs.named a ha) (hs.fits a ha)
  have hcommands : Reads (assignments.flatMap firmware.componentBranches)
      (assignments.flatMap fun a => a.commands.map (firmware.commandItem a)) := by
    refine Reads.flatMap fun a ha => ?_
    rw [List.map_eq_flatMap]
    exact Reads.flatMap fun c hc =>
      reads_commandBranch firmware (hs.named a ha) (hs.fits a ha) hc
  have hremark : statement?
      (Line.plain "// unmatched lines are discarded").content.toList = some .nothing := by
    decide
  have hclosing : statement? Line.closing.content.toList = some .closing := by decide
  have hheader : dispatchHeader.read?
      (Line.opening "void dispatchCommand(const char *command)").content.toList
        = some [] := by
    decide
  unfold dispatchItems?
  rw [sketchLines_sections]
  simp only [List.map_append]
  -- no line in front of the function is of the form of its header
  rw [after?_append (filterMap_skipped (preamble_begins _ _) (by decide)),
    after?_append (filterMap_skipped (globals_begins hs.named) (by decide)),
    after?_append (filterMap_skipped (setupPart_begins haccepted hs.named) (by decide))]
  unfold dispatch
  simp only [List.map_append, List.map_cons, List.map_nil, List.append_assoc,
    List.cons_append, List.nil_append]
  rw [after?, hheader]
  simp only [Option.isSome_some, if_true, Option.bind_eq_bind, Option.bind_some]
  have hread := hduties.append hcommands []
  simp only [List.map_append, List.append_assoc, List.nil_append] at hread
  rw [hread, readBody?, hremark]
  simp only [Draft.take?]
  rw [readBody?, hclosing]
  rfl

/-- The loop is read after everything else. -/
theorem loopItems?_sketch (haccepted : firmware.refusal? = none)
    (hnamed : ∀ a ∈ assignments, isComponentName a.name = true) :
    loopItems? ((firmware.sketchLines assignments).map fun line => line.content.toList)
      = some (firmware.program assignments).loop := by
  have hloop : loopItems? (loop.map fun line => line.content.toList) = some loopItems := by
    decide +kernel
  show _ = some loopItems
  rw [← hloop]
  unfold loopItems?
  rw [sketchLines_sections]
  simp only [List.map_append]
  rw [after?_append (filterMap_skipped (preamble_begins _ _) (by decide)),
    after?_append (filterMap_skipped (globals_begins hnamed) (by decide)),
    after?_append (filterMap_skipped (setupPart_begins haccepted hnamed) (by decide)),
    after?_append (filterMap_skipped (dispatch_begins _ hnamed) (by decide))]

/-- A form that skips the functions reads what it reads in the preamble and
among the declarations. -/
theorem filterMap_declared {form : Form} (haccepted : firmware.refusal? = none)
    (hnamed : ∀ a ∈ assignments, isComponentName a.name = true)
    (hfunctions : form.skips functionHeads = true) :
    ((firmware.sketchLines assignments).map fun line => line.content.toList).filterMap
        form.read?
      = ((firmware.preamble (distanceSensors assignments ≠ [])).map
            fun line => line.content.toList).filterMap form.read?
        ++ ((globals assignments).map fun line => line.content.toList).filterMap
            form.read? := by
  unfold functionHeads at hfunctions
  rw [Form.skips_append, Form.skips_append] at hfunctions
  obtain ⟨⟨hsetup, hdispatch⟩, hloop⟩ := hfunctions
  rw [sketchLines_sections]
  simp only [List.map_append, List.filterMap_append]
  rw [filterMap_skipped (setupPart_begins haccepted hnamed) hsetup,
    filterMap_skipped (dispatch_begins _ hnamed) hdispatch,
    filterMap_skipped loop_begins hloop, List.nil_append, List.nil_append,
    List.append_nil]

theorem onlyNumber?_size (haccepted : firmware.refusal? = none)
    (hnamed : ∀ a ∈ assignments, isComponentName a.name = true) :
    onlyNumber? sizeForm
        ((firmware.sketchLines assignments).map fun line => line.content.toList)
      = some firmware.accumulatorSize := by
  have hread : sizeForm.read? (Line.plain ("#define ACCUMULATOR_SIZE "
      ++ toString firmware.accumulatorSize)).content.toList
        = some [toString firmware.accumulatorSize] := by
    have hfill : sizeForm.read? (sizeForm.fill [toString firmware.accumulatorSize])
        = some [toString firmware.accumulatorSize] :=
      Form.read?_fill (by decide) (.cons (number_fits _) .nil)
    rw [← hfill]
    congr 1
    simp [Line.content, Form.fill, fillParts, sizeForm]
  have hpreamble : ∀ ranging, ((firmware.preamble ranging).map
      fun line => line.content.toList).filterMap sizeForm.read?
        = [[toString firmware.accumulatorSize]] := by
    intro ranging
    have hprologue : ((prologue ranging).map
        fun line => line.content.toList).filterMap sizeForm.read? = [] := by
      cases ranging <;> decide
    rw [preamble_parts, List.map_append, List.filterMap_append, hprologue,
      List.nil_append, List.map_cons, List.filterMap_cons_some hread]
    rfl
  unfold onlyNumber?
  rw [filterMap_declared haccepted hnamed (by decide), hpreamble,
    filterMap_skipped (globals_begins hnamed) (by decide), List.append_nil]
  exact number?_digits _

/-- A form that skips the sensors too reads what it reads among the variables
of the accumulator and of the motors. -/
theorem filterMap_globals {form : Form} (haccepted : firmware.refusal? = none)
    (hnamed : ∀ a ∈ assignments, isComponentName a.name = true)
    (hskips : form.skips (preambleHeads ++ sensorHeads ++ functionHeads) = true) :
    ((firmware.sketchLines assignments).map fun line => line.content.toList).filterMap
        form.read?
      = (["char accumulator[ACCUMULATOR_SIZE + 1];".toList,
          "int accumulatorIndex = 0;".toList].filterMap form.read?)
        ++ ((stateLines (speedMotors assignments)).map
            fun line => line.content.toList).filterMap form.read? := by
  rw [Form.skips_append, Form.skips_append] at hskips
  obtain ⟨⟨hpreamble, hsensor⟩, hfunctions⟩ := hskips
  have hsensors : ∀ a ∈ distanceSensors assignments, isComponentName a.name = true :=
    fun a ha => hnamed a (List.mem_filter.1 ha).1
  have hend : ∀ line ∈ [Line.blank], line.Begins sensorHeads := by decide
  rw [filterMap_declared haccepted hnamed hfunctions,
    filterMap_skipped (preamble_begins _ _) hpreamble, List.nil_append, globals_parts]
  simp only [List.map_append, List.filterMap_append]
  rw [filterMap_skipped (sensorLines_begins hsensors) hsensor, filterMap_skipped hend hsensor,
    List.append_nil, List.append_nil]
  rfl

/-- A number of the accumulator is the one in its variables. -/
theorem onlyNumber?_declared {form : Form} {value : String} {n : Nat}
    (haccepted : firmware.refusal? = none)
    (hnamed : ∀ a ∈ assignments, isComponentName a.name = true)
    (hskips : form.skips (preambleHeads ++ sensorHeads ++ functionHeads) = true)
    (hstates : form.skips stateHeads = true)
    (hread : ["char accumulator[ACCUMULATOR_SIZE + 1];".toList,
      "int accumulatorIndex = 0;".toList].filterMap form.read? = [[value]])
    (hvalue : number? value = some n) :
    onlyNumber? form
        ((firmware.sketchLines assignments).map fun line => line.content.toList)
      = some n := by
  have hmotors : ∀ a ∈ speedMotors assignments, isComponentName a.name = true :=
    fun a ha => hnamed a (List.mem_filter.1 ha).1
  unfold onlyNumber?
  rw [filterMap_globals haccepted hnamed hskips,
    filterMap_skipped (stateLines_begins hmotors) hstates, hread]
  exact hvalue

theorem onlyNumber?_spare (haccepted : firmware.refusal? = none)
    (hnamed : ∀ a ∈ assignments, isComponentName a.name = true) :
    onlyNumber? bufferForm
        ((firmware.sketchLines assignments).map fun line => line.content.toList)
      = some 1 := by
  have hread : ["char accumulator[ACCUMULATOR_SIZE + 1];".toList,
      "int accumulatorIndex = 0;".toList].filterMap bufferForm.read? = [["1"]] := by
    decide
  exact onlyNumber?_declared haccepted hnamed (by decide) (by decide) hread (by decide)

theorem onlyNumber?_index (haccepted : firmware.refusal? = none)
    (hnamed : ∀ a ∈ assignments, isComponentName a.name = true) :
    onlyNumber? indexForm
        ((firmware.sketchLines assignments).map fun line => line.content.toList)
      = some 0 := by
  have hread : ["char accumulator[ACCUMULATOR_SIZE + 1];".toList,
      "int accumulatorIndex = 0;".toList].filterMap indexForm.read? = [["0"]] := by
    decide
  exact onlyNumber?_declared haccepted hnamed (by decide) (by decide) hread (by decide)

/-- The states are those of the motors with a PWM pin. -/
theorem filterMap_states (haccepted : firmware.refusal? = none)
    (hnamed : ∀ a ∈ assignments, isComponentName a.name = true) :
    ((firmware.sketchLines assignments).map fun line => line.content.toList).filterMap
        stateForm.read?
      = (speedMotors assignments).map fun a => [a.name] := by
  have hread : ∀ a ∈ speedMotors assignments, stateForm.read?
      (Line.plain ("SpeedState " ++ a.speedVariable ++ " = SPEED_IDLE;")).content.toList
        = some [a.name] := by
    intro a ha
    have hname := hnamed a (List.mem_filter.1 ha).1
    have hfill : stateForm.read? (stateForm.fill [a.name]) = some [a.name] :=
      Form.read?_fill (by decide) (.cons (word_fits hname) .nil)
    rw [← hfill]
    congr 1
    simp [Line.content, Form.fill, fillParts, stateForm, Assignment.speedVariable]
  have hdeclared : ["char accumulator[ACCUMULATOR_SIZE + 1];".toList,
      "int accumulatorIndex = 0;".toList].filterMap stateForm.read? = [] := by
    decide
  rw [filterMap_globals haccepted hnamed (by decide), hdeclared, List.nil_append]
  unfold stateLines
  split
  · rename_i hnil
    rw [hnil]
    rfl
  -- the enumeration stands in front of the declarations and is not of their form
  · have henum : ([Line.blank, .plain
        "enum SpeedState \x7b SPEED_IDLE, SPEED_AWAITING_PARAM \x7d;"].map
        fun line => line.content.toList).filterMap stateForm.read? = [] := by
      decide
    rw [List.map_append, List.filterMap_append, henum, List.nil_append, List.map_map,
      List.filterMap_map, ← List.filterMap_eq_map]
    exact List.filterMap_congr hread

/-- A sketch is read as its program. -/
theorem read?_sketch (haccepted : firmware.refusal? = none) (hs : Served assignments) :
    Sketch.Program.read? (firmware.sketch assignments)
      = some (firmware.program assignments) := by
  unfold Sketch.Program.read?
  rw [sourceLines_sketch haccepted hs.named]
  simp only [onlyNumber?_size haccepted hs.named, onlyNumber?_spare haccepted hs.named,
    onlyNumber?_index haccepted hs.named, dispatchItems?_sketch haccepted hs,
    loopItems?_sketch haccepted hs.named, filterMap_states haccepted hs.named,
    Option.bind_eq_bind, Option.bind_some]
  have hstates : ((speedMotors assignments).map fun a => [a.name]).flatten.map
      ("speedState" ++ ·) = (speedMotors assignments).map Assignment.speedVariable := by
    rw [← List.flatMap_def, ← List.map_eq_flatMap, List.map_map]
    rfl
  rw [hstates]
  rfl

end Firmware

end SerialEndpoint
