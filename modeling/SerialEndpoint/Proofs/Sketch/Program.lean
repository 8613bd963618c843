/-
The program that a sketch is, read from its text.

# What is read

Two functions are read, the one that takes a line and the loop, and of the
rest what they rest on: the capacity, the accumulator and its first index, and
the variables of the motors. Each of the numbers must stand in exactly one
line of the text (`onlyNumber?`).

# Lines

A sketch says one thing on a line, so a line is read on its own: it is of one
of a few forms (`LineKind`), and the form says what it means. No line is of
two kinds (`statementTable_apart`), so the order of the kinds is of no
account, and a line that is of a kind says what that kind says
(`statement?_of_read?`).

# Bodies

The lines of a function's body make up its items, instructions and choices;
nothing in a sketch is nested deeper than that. A `Draft` is a body as far as
it is read: a line can add an instruction, to the open branch if there is one,
open a branch, go over to the next branch of the same choice, or close the
choice.

A text with a line in one of its two functions that has no meaning here, or
with one that cannot stand where it does, is no program. So nothing in the two
functions is passed over but blank lines and remarks.
-/
import SerialEndpoint.Command
import SerialEndpoint.Number.Decimal
import SerialEndpoint.Proofs.Sketch.Lines
import SerialEndpoint.Proofs.Sketch.Forms

namespace SerialEndpoint.Sketch

-- ============================================================= programs

/-- The condition of a branch. -/
inductive Guard where
  /-- A motor's variable says that it waits for its duty. -/
  | waits (state : String)
  /-- The line equals a text. -/
  | equals (text : String)
  | incomingIs (byte : UInt8)
  /-- The index is below the capacity. -/
  | hasRoom
deriving DecidableEq

/-- One instruction of a function. -/
inductive Instruction where
  | digitalWrite (pin : UInt8) (level : Level)
  /-- Writes the number in the line, between two bounds, as a duty. -/
  | analogWrite (pin : UInt8) (low high : Nat)
  | setState (state : String) (waiting : Bool)
  | declareReply (size : Nat)
  /-- Reads a voltage and prints it into the reply. -/
  | formatVoltage (pin : UInt8) (places : Nat)
  | writeReply
  | writeLineEnd
  | dumpDistance (sensor : String)
  | leave
  | receive
  | terminate
  | dispatch
  | rewind
  | clear
  | store
  | advance
deriving DecidableEq

/-- An instruction, or a choice of the first branch whose guard holds. -/
inductive Item where
  | step (instruction : Instruction)
  | choice (branches : List (Guard × List Instruction))
deriving DecidableEq

/-- What is read of a sketch. -/
structure Program where
  capacity : Nat
  /-- How many bytes the accumulator has. -/
  bufferSize : Nat
  firstIndex : Nat
  /-- The variables of the motors, all idle at first. -/
  states : List String
  dispatch : List Item
  loop : List Item
deriving DecidableEq

-- ================================================================ lines

/-- What a line of a function's body says. -/
inductive Statement where
  | nothing
  | instruct (instruction : Instruction)
  | opening (guard : Guard)
  | reopening (guard : Guard)
  | closing
deriving DecidableEq

/-- The kinds of lines in a function's body. -/
inductive LineKind where
  | blank | remark | closing
  | waits | equals | incomingIs | hasRoom
  | digitalWrite | analogWrite | setState
  | declareReply | formatVoltage | writeReply | writeLineEnd | dumpDistance
  | leave | receive | terminate | dispatch | rewind | clear | store | advance
deriving DecidableEq

/-- The line that compares a received line with a command. -/
def commandForm : Form :=
  ⟨"if (strcmp(command, \"", [(.quoted, "\") == 0) \x7b")]⟩

namespace LineKind

def all : List LineKind :=
  [blank, remark, closing, waits, equals, incomingIs, hasRoom, digitalWrite,
   analogWrite, setState, declareReply, formatVoltage, writeReply, writeLineEnd,
   dumpDistance, leave, receive, terminate, dispatch, rewind, clear, store, advance]

/-- The form of a kind. -/
def form : LineKind → Form
  | blank => ⟨"", []⟩
  | remark => ⟨"//", [(.remark, "")]⟩
  | closing => ⟨"\x7d", []⟩
  | waits => ⟨"if (speedState", [(.word, " == SPEED_AWAITING_PARAM) \x7b")]⟩
  | equals => commandForm
  | incomingIs => ⟨"if (incoming == 0x0A) \x7b", []⟩
  | hasRoom => ⟨"\x7d else if (accumulatorIndex < ACCUMULATOR_SIZE) \x7b", []⟩
  | digitalWrite => ⟨"digitalWrite(", [(.number, ", "), (.word, ");")]⟩
  | analogWrite =>
    ⟨"analogWrite(", [(.number, ", constrain(atoi(command), "), (.number, ", "),
      (.number, "));")]⟩
  | setState => ⟨"speedState", [(.word, " = "), (.word, ";")]⟩
  | declareReply => ⟨"char reply[", [(.number, "];")]⟩
  | formatVoltage =>
    ⟨"dtostrf(readVoltage(A", [(.number, "), 1, "), (.number, ", reply);")]⟩
  | writeReply => ⟨"Serial.write(reply);", []⟩
  | writeLineEnd => ⟨"Serial.write('\\n');", []⟩
  | dumpDistance => ⟨"dumpDistance(", [(.word, ");")]⟩
  | leave => ⟨"return;", []⟩
  | receive => ⟨"int incoming = Serial.read();", []⟩
  | terminate => ⟨"accumulator[accumulatorIndex] = '\\0';", []⟩
  | dispatch => ⟨"dispatchCommand(accumulator);", []⟩
  | rewind => ⟨"accumulatorIndex = 0;", []⟩
  | clear => ⟨"memset(accumulator, 0, sizeof(accumulator));", []⟩
  | store => ⟨"accumulator[accumulatorIndex] = (char) incoming;", []⟩
  | advance => ⟨"accumulatorIndex += 1;", []⟩

end LineKind

/-- A number by its digits. -/
def number? (text : String) : Option Nat := readDigits? text.toList

/-- A number that fits into a byte. -/
def byte? (text : String) : Option UInt8 :=
  ((number? text).filter (· < 256)).map UInt8.ofNat

/-- A level by its name. -/
def level? (text : String) : Option Level :=
  if text = "LOW" then some .low else if text = "HIGH" then some .high else none

/-- Whether a motor waits, by the name of the state. -/
def waiting? (text : String) : Option Bool :=
  if text = "SPEED_IDLE" then some false
  else if text = "SPEED_AWAITING_PARAM" then some true
  else none

/-- What a line of a kind says, given what stands in its gaps. -/
def LineKind.statement? : LineKind → List String → Option Statement
  | blank, [] => some .nothing
  | remark, [_] => some .nothing
  | closing, [] => some .closing
  | waits, [motor] => some (.opening (.waits ("speedState" ++ motor)))
  | equals, [text] => some (.opening (.equals text))
  | incomingIs, [] => some (.opening (.incomingIs 0x0A))
  | hasRoom, [] => some (.reopening .hasRoom)
  | digitalWrite, [pin, level] => do
    return .instruct (.digitalWrite (← byte? pin) (← level? level))
  | analogWrite, [pin, low, high] => do
    return .instruct (.analogWrite (← byte? pin) (← number? low) (← number? high))
  | setState, [motor, state] => do
    return .instruct (.setState ("speedState" ++ motor) (← waiting? state))
  | declareReply, [size] => do return .instruct (.declareReply (← number? size))
  | formatVoltage, [pin, places] => do
    return .instruct (.formatVoltage (← byte? pin) (← number? places))
  | writeReply, [] => some (.instruct .writeReply)
  | writeLineEnd, [] => some (.instruct .writeLineEnd)
  | dumpDistance, [sensor] => some (.instruct (.dumpDistance sensor))
  | leave, [] => some (.instruct .leave)
  | receive, [] => some (.instruct .receive)
  | terminate, [] => some (.instruct .terminate)
  | dispatch, [] => some (.instruct .dispatch)
  | rewind, [] => some (.instruct .rewind)
  | clear, [] => some (.instruct .clear)
  | store, [] => some (.instruct .store)
  | advance, [] => some (.instruct .advance)
  | _, _ => none

/-- Every kind with its form and its meaning. -/
def statementTable : FormTable Statement :=
  LineKind.all.map fun kind => (kind.form, kind.statement?)

/-- What a line of a function's body says. -/
def statement? (text : List Char) : Option Statement := readLine? statementTable text

/-- No two kinds have a line in common. -/
theorem statementTable_apart :
    statementTable.Pairwise fun e e' => e.1.apart e'.1 = true := by
  decide

/-- A line that is of the form of a kind says what the kind says. -/
theorem statement?_of_read? {kind : LineKind} {text : List Char}
    {values : List String} (h : kind.form.read? text = some values) :
    statement? text = kind.statement? values := by
  have hall : kind ∈ LineKind.all := by cases kind <;> decide
  exact readLine?_of_read? statementTable_apart (List.mem_map_of_mem hall) h

-- ================================================================ bodies

/-- A body as far as it is read: its items, and the choice that is open with
its finished branches. -/
structure Draft where
  items : List Item := []
  finished : List (Guard × List Instruction) := []
  current : Option (Guard × List Instruction) := none
deriving DecidableEq

/-- Takes what one more line says, if it can stand there. -/
def Draft.take? (draft : Draft) : Statement → Option Draft
  | .nothing => some draft
  | .instruct instruction =>
    match draft.current with
    | none => some { draft with items := draft.items ++ [.step instruction] }
    | some (guard, body) =>
      some { draft with current := some (guard, body ++ [instruction]) }
  | .opening guard =>
    match draft.current with
    | none => some { draft with current := some (guard, []) }
    | some _ => none
  | .reopening guard =>
    match draft.current with
    | none => none
    | some branch =>
      some { draft with finished := draft.finished ++ [branch], current := some (guard, []) }
  | .closing =>
    match draft.current with
    | none => none
    | some branch =>
      some { items := draft.items ++ [.choice (draft.finished ++ [branch])] }

/-- Reads a body up to the end of its block, and gives the lines after it
too. -/
def readBody? (draft : Draft) : List (List Char) → Option (List Item × List (List Char))
  | [] => none
  | text :: rest =>
    match statement? text with
    | none => none
    | some statement =>
      if statement = .closing ∧ draft.current = none then some (draft.items, rest)
      else match draft.take? statement with
        | none => none
        | some draft' => readBody? draft' rest

-- ============================================================ the whole

def sizeForm : Form := ⟨"#define ACCUMULATOR_SIZE ", [(.number, "")]⟩

def bufferForm : Form :=
  ⟨"char accumulator[ACCUMULATOR_SIZE + ", [(.number, "];")]⟩

def indexForm : Form := ⟨"int accumulatorIndex = ", [(.number, ";")]⟩

def stateForm : Form := ⟨"SpeedState speedState", [(.word, " = SPEED_IDLE;")]⟩

def dispatchHeader : Form := ⟨"void dispatchCommand(const char *command) \x7b", []⟩

def loopHeader : Form := ⟨"void loop() \x7b", []⟩

def whileHeader : Form := ⟨"while (Serial.available() > 0) \x7b", []⟩

/-- The number in the one line of a form. -/
def onlyNumber? (form : Form) (lines : List (List Char)) : Option Nat :=
  match lines.filterMap form.read? with
  | [[value]] => number? value
  | _ => none

/-- The lines after the first one of a form. -/
def after? (form : Form) : List (List Char) → Option (List (List Char))
  | [] => none
  | line :: rest => if (form.read? line).isSome then some rest else after? form rest

/-- The lines after the next one, which must be of a form. -/
def next? (form : Form) : List (List Char) → Option (List (List Char))
  | [] => none
  | line :: rest => if (form.read? line).isSome then some rest else none

/-- The body of the function that takes a line. -/
def dispatchItems? (lines : List (List Char)) : Option (List Item) := do
  let body ← after? dispatchHeader lines
  let (items, _) ← readBody? {} body
  return items

/-- The body of the loop, which goes on as long as there are bytes to
read. -/
def loopItems? (lines : List (List Char)) : Option (List Item) := do
  let function ← after? loopHeader lines
  let body ← next? whileHeader function
  let (items, rest) ← readBody? {} body
  let _ ← next? LineKind.closing.form rest
  return items

/-- The program that a sketch is. -/
def Program.read? (sketch : String) : Option Program := do
  let lines := sourceLines sketch
  let capacity ← onlyNumber? sizeForm lines
  let spare ← onlyNumber? bufferForm lines
  let firstIndex ← onlyNumber? indexForm lines
  let dispatch ← dispatchItems? lines
  let loop ← loopItems? lines
  let motors := (lines.filterMap stateForm.read?).flatten
  return {
    capacity
    bufferSize := capacity + spare
    firstIndex
    states := motors.map ("speedState" ++ ·)
    dispatch
    loop }

end SerialEndpoint.Sketch
