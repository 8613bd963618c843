/-
The command line: from arguments to what is to be done.

Arguments are read from left to right. A value that stands in an argument
of its own is settled only when the next argument that is understood
comes, or the end: until then nothing is known to be wrong with it. An
argument that is not understood at all is reported before such a value.
After two dashes every argument is a word.
-/
import SerialEndpoint.CommandLine.Grammar
import SerialEndpoint.Settings

namespace SerialEndpoint.CommandLine

-- ============================================================== results

/-- What to send, and the settings of the line that stand in for those of
the settings file. -/
structure SendTask where
  message : String
  receive : Bool := false
  settings : Option String := none
  port : Option String := none
  baud : Option Nat := none
  timeout : Option Nat := none
deriving DecidableEq

/-- What is to be done. -/
inductive Task where
  | generate (settings : String)
  | send (task : SendTask)
deriving DecidableEq

/-- A command line that was understood. -/
structure Invocation where
  verbose : Bool
  task : Task
deriving DecidableEq

/-- Why a command line was not understood. -/
inductive UsageFault where
  /-- There is nothing on it. -/
  | empty
  | missingCommand
  | unknownCommand
  | unknownArgument
  /-- An argument is given twice. -/
  | repeated
  | missingValue
  /-- The value is none that the argument can have. -/
  | badValue
  /-- A value is given to an option that takes none. -/
  | unexpectedValue
  | missingWord
deriving DecidableEq

/-- Why there is nothing to be done. -/
inductive Halt where
  | help (topic : Topic)
  | version
  | fault (fault : UsageFault)
deriving DecidableEq

/-- The settings of the line for a task: what the task says, and the
serial section where it says nothing. -/
def SendTask.serial (task : SendTask) (serial : Serial) : Serial where
  port := task.port.getD serial.port
  baud := task.baud.getD serial.baud
  timeout := task.timeout.getD serial.timeout

-- =============================================================== values

/-- The baud rate that a text gives. -/
def readBaud? (text : String) : Option Nat :=
  (readIntWithin? 0 (Nat.pow 2 32) text.toList).map Int.toNat

/-- The number of milliseconds that a text gives. -/
def readTimeout? (text : String) : Option Nat := readNatBelow? (Nat.pow 2 64) text.toList

/-- What is wrong with a value, if anything. -/
def Argument.fault? (argument : Argument) (value : String) : Option UsageFault :=
  match argument with
  | settings | project => if value = "" then some .missingValue else none
  | baud => if (readBaud? value).isNone then some .badValue else none
  | timeout => if (readTimeout? value).isNone then some .badValue else none
  | _ => none

-- =============================================================== state

/-- What has been read of the arguments of one topic. -/
structure Draft where
  /-- The arguments that are settled, with their values. -/
  given : List (Argument × String) := []
  /-- An argument that is not settled yet, and its value if it has come. -/
  pending : Option (Argument × Option String) := none
  /-- How many words there were. -/
  words : Nat := 0
  /-- True after two dashes. -/
  wordsOnly : Bool := false

namespace Draft

/-- Takes an argument with its value. It must be the first of its kind,
and the value one that it can have. -/
def accept (draft : Draft) (argument : Argument) (value : String) : Except Halt Draft :=
  if (draft.given.lookup argument).isSome then .error (.fault .repeated)
  else match argument.fault? value with
    | some fault => .error (.fault fault)
    | none => .ok { draft with given := draft.given ++ [(argument, value)] }

/-- Settles what is pending. -/
def settle (draft : Draft) : Except Halt Draft :=
  match draft.pending with
  | none => .ok draft
  | some (_, none) => .error (.fault .missingValue)
  | some (argument, some value) => { draft with pending := none }.accept argument value

/-- Takes an option that has no value. -/
def set (draft : Draft) (topic : Topic) (argument : Argument) : Except Halt Draft := do
  let draft ← draft.settle
  match argument with
  | .help => .error (.help topic)
  | .version => .error .version
  | argument => draft.accept argument ""

/-- Takes an option that has a value, here or in the next argument. -/
def take (draft : Draft) (argument : Argument) (value : Option String) : Except Halt Draft := do
  let draft ← draft.settle
  match value with
  | some value => draft.accept argument value
  | none => .ok { draft with pending := some (argument, none) }

-- ============================================================== options

/-- Reads a long option after its dashes. -/
def readLong (draft : Draft) (topic : Topic) (text : List Char) : Except Halt Draft :=
  let name := String.ofList (text.takeWhile (· ≠ '='))
  let value := match text.dropWhile (· ≠ '=') with
    | [] => none
    | _ :: value => some (String.ofList value)
  match topic.long? name with
  | none => .error (.fault .unknownArgument)
  | some option =>
    if option.value.isSome then draft.take option.argument value
    else if value.isSome then .error (.fault .unexpectedValue)
    else draft.set topic option.argument

/-- Reads short options after their dash. What stands behind one that
takes a value is the value, with or without an equals sign. -/
def readShort (draft : Draft) (topic : Topic) : List Char → Except Halt Draft
  | [] => .ok draft
  | c :: rest =>
    match topic.short? c with
    | none => .error (.fault .unknownArgument)
    | some option =>
      if option.value.isSome then
        let value := match rest with
          | [] => none
          | '=' :: value => some (String.ofList value)
          | value => some (String.ofList value)
        draft.take option.argument value
      else do
        let draft ← draft.set topic option.argument
        draft.readShort topic rest

/-- Reads a word. -/
def readWord (draft : Draft) (topic : Topic) (word : String) : Except Halt Draft :=
  match topic.words[draft.words]? with
  | some spec => do
    let draft ← draft.settle
    .ok { draft with pending := some (spec.argument, some word), words := draft.words + 1 }
  | none =>
    if topic.commands = [] ∨ (draft.wordsOnly ∧ (topic.command? word).isSome) then
      .error (.fault .unknownArgument)
    else .error (.fault .unknownCommand)

/-- Reads one argument that is no command. -/
def readArgument (draft : Draft) (topic : Topic) (argument : String) : Except Halt Draft :=
  if draft.wordsOnly then draft.readWord topic argument
  else match argument.toList with
    | ['-', '-'] => .ok { draft with wordsOnly := true }
    | '-' :: '-' :: text => draft.readLong topic text
    | '-' :: c :: text => draft.readShort topic (c :: text)
    | _ =>
      match draft.pending with
      | some (pending, none) => .ok { draft with pending := some (pending, some argument) }
      | _ => draft.readWord topic argument

/-- Reads arguments up to a command or to the end: what was read, and the
command with the arguments after it. -/
def read (draft : Draft) (topic : Topic) :
    List String → Except Halt (Draft × Option (Topic × List String))
  | [] => do
    let draft ← draft.settle
    .ok (draft, none)
  | argument :: rest =>
    let command := if draft.wordsOnly then none else topic.command? argument
    match command with
    | some command => .ok (draft, some (command, rest))
    | none => do
      let draft ← draft.readArgument topic argument
      draft.read topic rest

/-- True of an argument that was given. -/
def has (draft : Draft) (argument : Argument) : Bool := (draft.given.lookup argument).isSome

/-- The value of an argument. -/
def value? (draft : Draft) (argument : Argument) : Option String := draft.given.lookup argument

end Draft

-- ============================================================ commands

/-- Reads the arguments of the command that generates. -/
def readGenerate (verbose : Bool) (arguments : List String) : Except Halt Invocation := do
  let (draft, _) ← ({} : Draft).read .generate arguments
  pure ⟨verbose || draft.has .verbose,
    .generate ((draft.value? .project).getD Topic.usualProject)⟩

/-- Reads the arguments of the command that sends. -/
def readSend (verbose : Bool) (arguments : List String) : Except Halt Invocation := do
  let (draft, _) ← ({} : Draft).read .send arguments
  match draft.value? .message with
  | none => .error (.fault .missingWord)
  | some message =>
    let task : SendTask :=
      { message
        receive := draft.has .receive
        settings := draft.value? .settings
        port := draft.value? .port
        baud := (draft.value? .baud).bind readBaud?
        timeout := (draft.value? .timeout).bind readTimeout? }
    pure ⟨verbose || draft.has .verbose, .send task⟩

/-- Reads the names after the command for help. -/
def readHelp (topic : Topic) : List String → Halt
  | [] => .help topic
  | name :: rest =>
    match topic.command? name with
    | some command => readHelp command rest
    | none => .fault .unknownCommand

/-- Reads the arguments of the program, without its name. -/
def read (arguments : List String) : Except Halt Invocation := do
  match ← ({} : Draft).read .program arguments with
  | (draft, none) =>
    .error (.fault (if draft.has .verbose then .missingCommand else .empty))
  | (draft, some (.generate, rest)) => readGenerate (draft.has .verbose) rest
  | (draft, some (.send, rest)) => readSend (draft.has .verbose) rest
  | (_, some (_, rest)) => .error (readHelp .program rest)

end SerialEndpoint.CommandLine
