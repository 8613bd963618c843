/-
What the program of a sketch does: a machine with the sketch's variables and
the board's pins, run instruction by instruction.

# Steps that may fail

Every step may fail, and fails where the sketch would go wrong: at a write
outside the accumulator, at a variable that is not declared, at a read with
nothing to read, at an argument that is not there. A run that is there is
therefore a run without such a step.

# Leaving a function

A function goes on from instruction to instruction until it is left, so an
instruction ends in a `Flow`, onward or left, and what stands behind a
`return` is not run (`Flow.andThen`). A choice runs the first branch whose
guard holds and no other. Bodies put together are run one after the other
(`runItems_append`), which is how a proof takes a body apart.

# What stands outside the sketch

It is taken as documented: texts are compared up to their first zero, `atoi`
is the number at the front of a line, and the helpers that read a voltage and
a distance print the board's own replies. The sensors' readings come as
inputs, as they do on the simulated board.
-/
import SerialEndpoint.Proofs.Board.Numerals
import SerialEndpoint.Proofs.Board.Runs
import SerialEndpoint.Proofs.Sketch.Program

namespace SerialEndpoint.Sketch

-- ============================================================= machines

/-- The variables of a sketch and the pins of its board. -/
structure Machine where
  accumulator : List UInt8
  index : Nat
  /-- The variables of the motors; true while one waits. -/
  states : String → Option Bool
  /-- A byte that came in and is not yet read. -/
  arrived : Option UInt8 := none
  incoming : UInt8 := 0
  reply : List UInt8 := []
  levels : UInt8 → Option Level := fun _ => none
  duties : UInt8 → Option UInt8 := fun _ => none
  readings : UInt8 → UInt16 := fun _ => 0
  /-- What the distance sensors see, by their variables. -/
  distances : String → Option UInt16 := fun _ => none
  output : List UInt8 := []

/-- How an instruction ends: the function goes on, or it is left. -/
inductive Flow where
  | onward (machine : Machine)
  | left (machine : Machine)

/-- The machine, however it goes on. -/
def Flow.machine : Flow → Machine
  | onward machine | left machine => machine

/-- What a function can refer to besides the global variables: its
argument, and the function that takes a line. -/
structure Scope where
  command : Option (List UInt8) := none
  call : List UInt8 → Machine → Option Machine := fun _ _ => none

/-- The text in some bytes. -/
def upToZero (bytes : List UInt8) : List UInt8 := bytes.takeWhile (· ≠ 0)

/-- The nearest number within bounds. -/
def constrain (i low high : Int) : Int :=
  if i < low then low else if high < i then high else i

section Semantics

variable (voltage : VoltageScale) (ranging : Ranging)

-- ========================================================== single steps

/-- The reply to the reading of a voltage, with some places. -/
def voltageReply (places : Nat) (raw : UInt16) : String :=
  (voltage.convert raw).fixed places

/-- The reply to a measured distance, or to none. -/
def distanceReply (distance : Option UInt16) : String :=
  match distance with
  | some distance => toString distance.toNat
  | none => ranging.timeoutToken

/-- What an instruction does. -/
def Instruction.perform (scope : Scope) (m : Machine) : Instruction → Option Flow
  | .digitalWrite pin level =>
    some (.onward { m with levels := overlay m.levels pin (some level) })
  | .analogWrite pin low high =>
    match scope.command with
    | none => none
    | some command =>
      let duty := constrain (leadingInt (upToZero command)) low high
      some (.onward { m with duties := overlay m.duties pin (some (UInt8.ofInt duty)) })
  | .setState state waiting =>
    match m.states state with
    | none => none
    | some _ => some (.onward { m with states := overlay m.states state (some waiting) })
  | .declareReply _ => some (.onward { m with reply := [] })
  | .formatVoltage pin places =>
    let text := voltageReply voltage places (m.readings pin)
    some (.onward { m with reply := Utf8.encode text })
  | .writeReply => some (.onward { m with output := m.output ++ m.reply })
  | .writeLineEnd => some (.onward { m with output := m.output ++ [lineEnd] })
  | .dumpDistance sensor =>
    let text := distanceReply ranging (m.distances sensor)
    some (.onward { m with output := m.output ++ Utf8.encode text ++ [lineEnd] })
  | .leave => some (.left m)
  | .receive =>
    match m.arrived with
    | none => none
    | some byte => some (.onward { m with incoming := byte, arrived := none })
  | .terminate =>
    if m.index < m.accumulator.length then
      some (.onward { m with accumulator := m.accumulator.set m.index 0 })
    else none
  | .dispatch => (scope.call m.accumulator m).map .onward
  | .rewind => some (.onward { m with index := 0 })
  | .clear =>
    some (.onward { m with accumulator := List.replicate m.accumulator.length 0 })
  | .store =>
    if m.index < m.accumulator.length then
      some (.onward { m with accumulator := m.accumulator.set m.index m.incoming })
    else none
  | .advance => some (.onward { m with index := m.index + 1 })

/-- Whether a guard holds. -/
def Guard.holds? (capacity : Nat) (scope : Scope) (m : Machine) : Guard → Option Bool
  | .waits state => m.states state
  | .equals text =>
    scope.command.map fun command => upToZero command == upToZero (Utf8.encode text)
  | .incomingIs byte => some (m.incoming == byte)
  | .hasRoom => some (decide (m.index < capacity))

-- ================================================================ bodies

/-- Goes on after an outcome, unless the function was left. -/
def Flow.andThen (next : Machine → Option Flow) : Option Flow → Option Flow
  | none => none
  | some (.left m) => some (.left m)
  | some (.onward m) => next m

/-- What some instructions do in order. -/
def runInstructions (scope : Scope) : List Instruction → Machine → Option Flow
  | [], m => some (.onward m)
  | instruction :: rest, m =>
    Flow.andThen (runInstructions scope rest)
      (instruction.perform voltage ranging scope m)

/-- What the first branch does whose guard holds; without one nothing is
done. -/
def runBranches (capacity : Nat) (scope : Scope) :
    List (Guard × List Instruction) → Machine → Option Flow
  | [], m => some (.onward m)
  | (guard, body) :: rest, m =>
    match guard.holds? capacity scope m with
    | none => none
    | some true => runInstructions voltage ranging scope body m
    | some false => runBranches capacity scope rest m

/-- What an item does. -/
def Item.run (capacity : Nat) (scope : Scope) (m : Machine) : Item → Option Flow
  | .step instruction => instruction.perform voltage ranging scope m
  | .choice branches => runBranches voltage ranging capacity scope branches m

/-- What a body does. -/
def runItems (capacity : Nat) (scope : Scope) : List Item → Machine → Option Flow
  | [], m => some (.onward m)
  | item :: rest, m =>
    Flow.andThen (runItems capacity scope rest)
      (item.run voltage ranging capacity scope m)

/-- Bodies run one after the other. -/
theorem runItems_append (capacity : Nat) (scope : Scope) (xs ys : List Item)
    (m : Machine) :
    runItems voltage ranging capacity scope (xs ++ ys) m
      = Flow.andThen (runItems voltage ranging capacity scope ys)
          (runItems voltage ranging capacity scope xs m) := by
  induction xs generalizing m with
  | nil => rfl
  | cons item rest ih =>
      rw [List.cons_append]
      unfold runItems
      cases item.run voltage ranging capacity scope m with
      | none => rfl
      | some flow =>
          cases flow with
          | onward m' => exact ih m'
          | left m' => rfl

section Steps

variable {voltage : VoltageScale} {ranging : Ranging} {capacity : Nat} {scope : Scope}
  {m m' : Machine} {instruction : Instruction} {instructions : List Instruction}
  {guard : Guard} {branches : List (Guard × List Instruction)}

theorem runInstructions_onward
    (h : instruction.perform voltage ranging scope m = some (.onward m')) :
    runInstructions voltage ranging scope (instruction :: instructions) m
      = runInstructions voltage ranging scope instructions m' := by
  rw [runInstructions, h]
  rfl

theorem runInstructions_left
    (h : instruction.perform voltage ranging scope m = some (.left m')) :
    runInstructions voltage ranging scope (instruction :: instructions) m
      = some (.left m') := by
  rw [runInstructions, h]
  rfl

theorem runBranches_first (h : guard.holds? capacity scope m = some true) :
    runBranches voltage ranging capacity scope ((guard, instructions) :: branches) m
      = runInstructions voltage ranging scope instructions m := by
  rw [runBranches, h]

theorem runBranches_next (h : guard.holds? capacity scope m = some false) :
    runBranches voltage ranging capacity scope ((guard, instructions) :: branches) m
      = runBranches voltage ranging capacity scope branches m := by
  rw [runBranches, h]

end Steps

-- ============================================================== programs

namespace Program

/-- The machine before the first byte. -/
def start (program : Program) : Machine where
  accumulator := List.replicate program.bufferSize 0
  index := program.firstIndex
  states state := if state ∈ program.states then some false else none

/-- What the function that takes a line does with one. -/
def take? (program : Program) (command : List UInt8) (m : Machine) : Option Machine :=
  (runItems voltage ranging program.capacity { command := some command }
    program.dispatch m).map Flow.machine

/-- What the loop does on a byte: its body, which must read the byte. -/
def feed? (program : Program) (m : Machine) (byte : UInt8) : Option Machine :=
  match runItems voltage ranging program.capacity
      { call := program.take? voltage ranging } program.loop
      { m with arrived := some byte } with
  | none => none
  | some flow => if flow.machine.arrived = none then some flow.machine else none

/-- What the program does on an input. A distance is seen by the sensor
whose variable carries the component's name. -/
def react? (program : Program) (m : Machine) : Input → Option Machine
  | .byte byte => program.feed? voltage ranging m byte
  | .reading pin raw => some { m with readings := overlay m.readings pin raw }
  | .range sensor distance =>
    some { m with distances := overlay m.distances ("sensor" ++ sensor) distance }
  | .take => some { m with output := [] }

/-- What the program does on some inputs, from a machine on. -/
def runFrom? (program : Program) (m : Machine) : List Input → Option Machine
  | [] => some m
  | input :: rest =>
    match program.react? voltage ranging m input with
    | none => none
    | some m' => program.runFrom? m' rest

/-- What the program does on some inputs from its start on. -/
def run? (program : Program) (inputs : List Input) : Option Machine :=
  program.runFrom? voltage ranging program.start inputs

end Program

end Semantics

end SerialEndpoint.Sketch
