/-
The functions of a source text, each found by its signature.

# Where a body ends

The body of a function goes up to the line that closes it. Blocks may stand in
it, so the lines are counted that open one and those that close one
(`untilClosed`): a line that begins with a closing brace ends the body at
depth zero and else leads one block out, and a line that ends with an opening
brace leads one block in. A line can do both, as the header of the next branch
does.

# Why it is found in a sketch

A body whose blocks are all closed within it is `Nested`. Nested lines are
passed over at any depth and leave the depth as it was, whatever comes after
them (`untilClosed_nested`). The induction is on how they are nested:

- a plain line neither opens nor closes a block, as its two ends tell;
- of lines put together, first the one part is passed over and then the other;
- a block goes one deeper with its header, its body is passed over there, and
  its end comes back.

So the line that closes a function is met at depth zero and not before, and
the body is read as it was put together (`body?_of_sections`). What is left
for each function is that its signature is in no line in front of it, which
the heads of the sections tell, and that its body is nested.

The plain lines with something put into them are seen by their ends alone
(`Nested.of_ends`): a fixed text stands in front and another one behind.
-/
import SerialEndpoint.Proofs.Sketch.Reading

namespace SerialEndpoint

namespace Sketch

-- ============================================================== reading

/-- True of a line that closes a block. -/
def closesBlock (line : List Char) : Bool := line.head? = some '\x7d'

/-- True of a line that opens a block. -/
def opensBlock (line : List Char) : Bool := line.getLast? = some '\x7b'

/-- The lines up to the one that closes the block so many blocks further
out. -/
def untilClosed : Nat → List (List Char) → List (List Char)
  | _, [] => []
  | depth, line :: rest =>
    let inner := if opensBlock line then 1 else 0
    if closesBlock line then
      match depth with
      | 0 => []
      | outer + 1 => line :: untilClosed (outer + inner) rest
    else line :: untilClosed (depth + inner) rest

/-- The lines of the function with a signature. -/
def body? (signature text : String) : Option (List (List Char)) :=
  (after? ⟨signature ++ " \x7b", []⟩ (sourceLines text)).map (untilClosed 0)

-- ============================================================== nesting

/-- Lines in which every block that is opened is closed. -/
inductive Nested : List Line → Prop
  | nil : Nested []
  | plain {text : String} (hfront : closesBlock text.toList = false)
      (hend : opensBlock text.toList = false) : Nested [.plain text]
  | append {lines more : List Line} : Nested lines → Nested more → Nested (lines ++ more)
  | block {header : String} {body : List Line}
      (hfront : closesBlock (Line.opening header).content.toList = false) :
      Nested body → Nested (.opening header :: (body ++ [.closing]))

theorem Nested.flatMap {α : Type} {xs : List α} {f : α → List Line}
    (h : ∀ x ∈ xs, Nested (f x)) : Nested (xs.flatMap f) := by
  induction xs with
  | nil => exact .nil
  | cons x xs ih =>
      rw [List.flatMap_cons]
      exact (h x (List.mem_cons_self ..)).append
        (ih fun y hy => h y (List.mem_cons_of_mem _ hy))

/-- Whether a line can be seen by its ends to neither open nor close a
block. -/
def plainEnds (front back : String) : Bool :=
  front.toList.head?.any (· ≠ '\x7d') && back.toList.getLast?.any (· ≠ '\x7b')

theorem closesBlock_of_front (front : String) {text : String}
    (hfront : front.toList.head?.any (· ≠ '\x7d') = true) (h : front.toList <+: text.toList) :
    closesBlock text.toList = false := by
  obtain ⟨rest, hrest⟩ := h
  unfold closesBlock
  rw [← hrest]
  cases hlist : front.toList with
  | nil =>
      rw [hlist] at hfront
      cases hfront
  | cons c cs =>
      rw [hlist] at hfront
      simpa using hfront

theorem opensBlock_of_back (back : String) {text : String}
    (hback : back.toList.getLast?.any (· ≠ '\x7b') = true) (h : back.toList <:+ text.toList) :
    opensBlock text.toList = false := by
  obtain ⟨before, hbefore⟩ := h
  unfold opensBlock
  rw [← hbefore, List.getLast?_append]
  cases hlast : back.toList.getLast? with
  | none =>
      rw [hlast] at hback
      cases hback
  | some c =>
      rw [hlast] at hback
      simpa using hback

theorem Nested.of_ends (front back : String) {text : String} (hends : plainEnds front back = true)
    (hfront : front.toList <+: text.toList) (hback : back.toList <:+ text.toList) :
    Nested [.plain text] := by
  unfold plainEnds at hends
  rw [Bool.and_eq_true] at hends
  exact .plain (closesBlock_of_front front hends.1 hfront) (opensBlock_of_back back hends.2 hback)

theorem suffix_append (s back : String) : back.toList <:+ (s ++ back).toList := by
  rw [String.toList_append]
  exact List.suffix_append ..

theorem untilClosed_cons {line : List Char} (hfront : closesBlock line = false) (depth : Nat)
    (rest : List (List Char)) :
    untilClosed depth (line :: rest)
      = line :: untilClosed (depth + if opensBlock line then 1 else 0) rest := by
  conv_lhs => unfold untilClosed
  rw [hfront]
  exact if_neg Bool.false_ne_true

/-- Nested lines are passed over, and leave the depth as it was. -/
theorem untilClosed_nested {lines : List Line} (h : Nested lines) :
    ∀ (depth : Nat) (rest : List (List Char)),
      untilClosed depth ((lines.map fun line => line.content.toList) ++ rest)
        = (lines.map fun line => line.content.toList) ++ untilClosed depth rest := by
  induction h with
  | nil => exact fun _ _ => rfl
  | @plain text hfront hend =>
      intro depth rest
      have hplain := untilClosed_cons hfront depth rest
      rw [hend] at hplain
      exact hplain
  | append _ _ ih ih' =>
      intro depth rest
      rw [List.map_append, List.append_assoc, ih, ih', List.append_assoc]
  | @block header body hfront _ ih =>
      intro depth rest
      have hopens : opensBlock (Line.opening header).content.toList = true := by
        unfold opensBlock Line.content
        rw [String.toList_append, List.getLast?_append]
        rfl
      have hcloses : untilClosed (depth + 1) (Line.closing.content.toList :: rest)
          = Line.closing.content.toList :: untilClosed depth rest := rfl
      rw [List.map_cons, List.map_append, List.cons_append, untilClosed_cons hfront, hopens,
        List.append_assoc, if_pos rfl, ih]
      simp only [List.map_cons, List.map_nil, List.cons_append, List.nil_append, hcloses,
        List.append_assoc]

/-- The body of a function that comes after other lines. -/
theorem body?_of_sections (before after : List Line) {signature text : String}
    {body : List Line}
    (hlines : sourceLines text
      = (before ++ (.opening signature :: (body ++ (.closing :: after)))).map
          fun line => line.content.toList)
    (hbefore : (before.map fun line => line.content.toList).filterMap
      (Form.read? ⟨signature ++ " \x7b", []⟩) = [])
    (hbody : Nested body) :
    body? signature text = some (body.map fun line => line.content.toList) := by
  have hheader : Form.read? ⟨signature ++ " \x7b", []⟩ (Line.opening signature).content.toList
      = some [] := by
    have hfill := @Form.read?_fill ⟨signature ++ " \x7b", []⟩ [] rfl .nil
    unfold Form.fill fillParts at hfill
    rw [List.append_nil] at hfill
    exact hfill
  have hclosed : ∀ rest, untilClosed 0 (Line.closing.content.toList :: rest) = [] :=
    fun rest => rfl
  unfold body?
  rw [hlines, List.map_append, after?_append hbefore, List.map_cons, after?, hheader]
  simp only [Option.isSome_some, if_true, Option.map_some, List.map_append, List.map_cons]
  rw [untilClosed_nested hbody, hclosed, List.append_nil]

end Sketch

-- ==================================================== bodies of a sketch

open Sketch

namespace Firmware

variable {firmware : Firmware} {assignments : List Assignment}

/-- The signature of the function that reads a voltage. -/
def voltageSignature : String := "static float readVoltage(uint8_t pin)"

/-- The signature of the function that runs once. -/
def setupSignature : String := "void setup()"

/-- The signature of the function that takes a line. -/
def dispatchSignature : String := "void dispatchCommand(const char *command)"

/-- What is in the function that reads a voltage. -/
def voltageBody (firmware : Firmware) : List Line :=
  let scale := firmware.voltage
  [.plain "float raw = analogRead(pin);",
   .plain ("return ((raw * " ++ scale.reference.fixed 6 ++ ") / " ++
     (Binary64.ofNat scale.steps).fixed 6 ++ ") / " ++ scale.ratio.fixed 6 ++ ";")]

/-- What is in the function that runs once. -/
def setupBody (firmware : Firmware) (assignments : List Assignment) : List Line :=
  let sensors := distanceSensors assignments
  .plain ("Serial.begin(" ++ toString firmware.baud ++ ");") ::
  (assignments.flatMap pinModes ++
    if sensors = [] then [] else .plain "Wire.begin();" :: sensors.flatMap firmware.sensorStart)

/-- What is in the function that takes a line. -/
def dispatchBody (firmware : Firmware) (assignments : List Assignment) : List Line :=
  assignments.flatMap dutyBranch ++ assignments.flatMap firmware.componentBranches ++
    [.plain "// unmatched lines are discarded"]

theorem voltageHelper_eq (firmware : Firmware) :
    firmware.voltageHelper
      = .opening voltageSignature :: (firmware.voltageBody ++ [.closing, .blank]) := rfl

theorem setup_eq (firmware : Firmware) (assignments : List Assignment) :
    firmware.setup assignments
      = .opening setupSignature :: (firmware.setupBody assignments ++ [.closing, .blank]) := by
  unfold setup setupBody
  simp only [List.cons_append, List.nil_append, List.append_assoc]
  rfl

theorem dispatch_eq (firmware : Firmware) (assignments : List Assignment) :
    firmware.dispatch assignments
      = .opening dispatchSignature ::
          (firmware.dispatchBody assignments ++ [.closing, .blank]) := by
  unfold dispatch dispatchBody
  simp only [List.cons_append, List.nil_append, List.append_assoc]
  rfl

theorem nested_voltageBody (firmware : Firmware) : Nested firmware.voltageBody := by
  have hraw : Nested [.plain "float raw = analogRead(pin);"] := .plain (by decide) (by decide)
  refine hraw.append (.of_ends "return (" ";" (by decide) ?_
    (suffix_append ..))
  exact prefix_append (prefix_append (prefix_append (prefix_append (prefix_append
    (prefix_append (by decide))))))

theorem nested_pinModes (a : Assignment) : Nested (pinModes a) := by
  unfold pinModes
  rw [List.map_eq_flatMap]
  refine Nested.flatMap fun (role, pin) _ => ?_
  refine .of_ends "pinMode(" role.text (by cases role <;> decide) ?_
    (suffix_append ..)
  exact prefix_append (prefix_append (prefix_append (prefix_append (prefix_append (by decide)))))

theorem nested_sensorStart (firmware : Firmware) (a : Assignment) :
    Nested (firmware.sensorStart a) := by
  have htimeout : Nested [.plain (a.sensorVariable ++ ".setTimeout(" ++
      toString firmware.ranging.timeout ++ ");")] := by
    refine .of_ends "sensor" ");" (by decide) ?_ (suffix_append ..)
    exact prefix_append (prefix_append (prefix_append (prefix_append (by decide))))
  refine htimeout.append
    (.of_ends "sensor" ".init();" (by decide) ?_ (suffix_append ..))
  exact prefix_append (prefix_append (by decide))

theorem nested_setupBody (firmware : Firmware) (assignments : List Assignment) :
    Nested (firmware.setupBody assignments) := by
  have hserial : Nested [.plain ("Serial.begin(" ++ toString firmware.baud ++ ");")] :=
    .of_ends "Serial." ");" (by decide)
      (prefix_append (prefix_append (by decide))) (suffix_append ..)
  refine hserial.append (.append (.flatMap fun a _ => nested_pinModes a) ?_)
  split
  · exact .nil
  · have hwire : Nested [.plain "Wire.begin();"] := .plain (by decide) (by decide)
    exact hwire.append (.flatMap fun a _ => nested_sensorStart firmware a)

theorem nested_return : Nested [.plain "return;"] := .plain (by decide) (by decide)

theorem nested_dutyBranch (a : Assignment) : Nested (dutyBranch a) := by
  unfold dutyBranch
  cases a.pin? .pwm with
  | none => exact .nil
  | some pin =>
      have hwrite : Nested [.plain ("analogWrite(" ++ pin.name ++
          ", constrain(atoi(command), 0, 255));")] :=
        .of_ends "analogWrite(" ", constrain(atoi(command), 0, 255));"
          (by decide) (prefix_append (prefix_append (by decide))) (suffix_append ..)
      have hstate : Nested [.plain (a.speedVariable ++ " = SPEED_IDLE;")] :=
        .of_ends "speedState" " = SPEED_IDLE;" (by decide)
          (prefix_append (prefix_append (by decide))) (suffix_append ..)
      refine .block ?_ (hwrite.append (hstate.append nested_return))
      exact closesBlock_of_front "if (" (by decide)
        (prefix_append (prefix_append (prefix_append (by decide))))

theorem nested_actionLines (firmware : Firmware) (a : Assignment) (action : Action) :
    Nested (firmware.actionLines a action) := by
  unfold actionLines
  cases action with
  | write pin level =>
      exact .of_ends "digitalWrite(" ");" (by decide)
        (prefix_append (prefix_append (prefix_append (prefix_append (by decide)))))
        (suffix_append ..)
  | awaitSpeed pwm =>
      exact .of_ends "speedState" " = SPEED_AWAITING_PARAM;" (by decide)
        (prefix_append (prefix_append (by decide))) (suffix_append ..)
  | readVoltage pin =>
      have hreply : Nested [.plain ("char reply[" ++
          toString firmware.voltage.replyCapacity ++ "];")] :=
        .of_ends "char reply[" "];" (by decide)
          (prefix_append (prefix_append (by decide))) (suffix_append ..)
      have hformat : Nested [.plain ("dtostrf(readVoltage(" ++ pin.name ++ "), 1, " ++
          toString firmware.voltage.precision ++ ", reply);")] :=
        .of_ends "dtostrf(" ", reply);" (by decide)
          (prefix_append (prefix_append (prefix_append (prefix_append (by decide)))))
          (suffix_append ..)
      have hwrite : Nested [.plain "Serial.write(reply);"] := .plain (by decide) (by decide)
      have hend : Nested [.plain "Serial.write('\\n');"] := .plain (by decide) (by decide)
      exact hreply.append (hformat.append (hwrite.append hend))
  | readDistance =>
      exact .of_ends "dumpDistance(" ");" (by decide)
        (prefix_append (prefix_append (by decide))) (suffix_append ..)
  | placeholder =>
      exact .of_ends "//" " here" (by decide)
        (prefix_append (prefix_append (by decide))) (suffix_append ..)

theorem nested_commandBranch (firmware : Firmware) (a : Assignment) (command : Command) :
    Nested (firmware.commandBranch a command) := by
  have hbody := (nested_actionLines firmware a command.action).append nested_return
  have hbranch : Nested (.opening ("if (strcmp(command, \"" ++ command.line ++ "\") == 0)") ::
      ((firmware.actionLines a command.action ++ [.plain "return;"]) ++ [.closing])) :=
    .block (closesBlock_of_front "if (" (by decide)
      (prefix_append (prefix_append (prefix_append (by decide))))) hbody
  unfold commandBranch
  rw [List.append_assoc] at hbranch ⊢
  exact hbranch

theorem nested_dispatchBody (firmware : Firmware) (assignments : List Assignment) :
    Nested (firmware.dispatchBody assignments) := by
  have hremark : Nested [.plain "// unmatched lines are discarded"] :=
    .plain (by decide) (by decide)
  refine .append (.append ?_ ?_) hremark
  · exact .flatMap fun a _ => nested_dutyBranch a
  · exact .flatMap fun a _ => .flatMap fun command _ => nested_commandBranch firmware a command

/-- The function that reads a voltage is where there is something to
read. -/
theorem body?_voltage (haccepted : firmware.refusal? = none) (hs : Served assignments)
    (hsensor : hasVoltageSensor assignments = true) :
    body? voltageSignature (firmware.sketch assignments)
      = some (firmware.voltageBody.map fun line => line.content.toList) := by
  refine body?_of_sections
    (firmware.preamble (distanceSensors assignments ≠ []) ++ globals assignments)
    (.blank :: ((if distanceSensors assignments ≠ [] then firmware.distanceHelper else [])
      ++ (firmware.setup assignments ++ (firmware.dispatch assignments ++ loop)))) ?_ ?_
    (nested_voltageBody firmware)
  · rw [sourceLines_sketch haccepted hs.named, sketchLines_sections]
    unfold setupPart helpers
    rw [if_pos hsensor, voltageHelper_eq]
    simp only [List.append_assoc, List.cons_append, List.nil_append]
  · rw [List.map_append, List.filterMap_append,
      filterMap_skipped (preamble_begins _ _) (by decide),
      filterMap_skipped (globals_begins hs.named) (by decide)]
    rfl

theorem body?_setup (haccepted : firmware.refusal? = none) (hs : Served assignments) :
    body? setupSignature (firmware.sketch assignments)
      = some ((firmware.setupBody assignments).map fun line => line.content.toList) := by
  refine body?_of_sections
    (firmware.preamble (distanceSensors assignments ≠ []) ++ (globals assignments ++
      firmware.helpers assignments))
    (.blank :: (firmware.dispatch assignments ++ loop)) ?_ ?_
    (nested_setupBody firmware assignments)
  · rw [sourceLines_sketch haccepted hs.named, sketchLines_sections]
    unfold setupPart
    rw [setup_eq]
    simp only [List.append_assoc, List.cons_append, List.nil_append]
  · simp only [List.map_append, List.filterMap_append]
    rw [filterMap_skipped (preamble_begins _ _) (by decide),
      filterMap_skipped (globals_begins hs.named) (by decide),
      filterMap_skipped (helpers_begins haccepted _) (by decide)]
    rfl

theorem body?_dispatch (haccepted : firmware.refusal? = none) (hs : Served assignments) :
    body? dispatchSignature (firmware.sketch assignments)
      = some ((firmware.dispatchBody assignments).map fun line => line.content.toList) := by
  refine body?_of_sections
    (firmware.preamble (distanceSensors assignments ≠ []) ++ (globals assignments ++
      firmware.setupPart assignments))
    (.blank :: loop) ?_ ?_ (nested_dispatchBody firmware assignments)
  · rw [sourceLines_sketch haccepted hs.named, sketchLines_sections, dispatch_eq]
    simp only [List.append_assoc, List.cons_append, List.nil_append]
  · simp only [List.map_append, List.filterMap_append]
    rw [filterMap_skipped (preamble_begins _ _) (by decide),
      filterMap_skipped (globals_begins hs.named) (by decide),
      filterMap_skipped (setupPart_begins haccepted hs.named) (by decide)]
    rfl

end Firmware

end SerialEndpoint
