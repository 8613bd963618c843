/-
Runs of a board, and what it makes of a whole line. A board is reached by
feeding it bytes in between which readings change and output is taken
away; none of this touches its circuit (`run_circuit`).

Bytes that end no line only extend the unfinished one, up to the capacity
(`feedAll_open`), so a line with its end comes down to one dispatch of
what was kept of it (`feedAll_line`).
-/
import SerialEndpoint.Board

namespace SerialEndpoint

-- =============================================================== inputs

/-- What can happen to a board from outside. -/
inductive Input where
  | byte (byte : UInt8)
  | reading (pin : UInt8) (raw : UInt16)
  | range (sensor : String) (distance : Option UInt16)
  /-- The output is taken away. -/
  | take
deriving DecidableEq

namespace Board

/-- What a board does on an input. -/
def react (board : Board) : Input → Board
  | .byte byte => board.feed byte
  | .reading pin raw => board.setReading pin raw
  | .range sensor distance => board.setRange sensor distance
  | .take => board.drained

/-- What a board does on some inputs in order. -/
def run (board : Board) (inputs : List Input) : Board :=
  inputs.foldl react board

end Board

/-- The boards that a circuit can come to. -/
def Circuit.Reaches (circuit : Circuit) (board : Board) : Prop :=
  ∃ inputs, circuit.start.run inputs = board

namespace Board

-- ============================================================== circuit

theorem act_circuit (board : Board) (command : Command) :
    (board.act command).circuit = board.circuit := by
  unfold act
  cases command.action <;> rfl

theorem dispatch_circuit (board : Board) (line : List UInt8) :
    (board.dispatch line).circuit = board.circuit := by
  unfold dispatch
  split
  · rfl
  · split
    · rw [act_circuit]
    · rfl

theorem feed_circuit (board : Board) (byte : UInt8) :
    (board.feed byte).circuit = board.circuit := by
  unfold feed
  split
  · rw [dispatch_circuit]
  · split
    · rfl
    · rfl

theorem react_circuit (board : Board) (input : Input) :
    (board.react input).circuit = board.circuit := by
  cases input with
  | byte byte => exact feed_circuit board byte
  | reading pin raw => rfl
  | range sensor distance => rfl
  | take => rfl

/-- No run changes the circuit. -/
theorem run_circuit (board : Board) (inputs : List Input) :
    (board.run inputs).circuit = board.circuit := by
  induction inputs generalizing board with
  | nil => rfl
  | cons input rest ih =>
      show ((board.react input).run rest).circuit = board.circuit
      rw [ih, react_circuit]

theorem circuit_of_reaches {circuit : Circuit} {board : Board}
    (h : circuit.Reaches board) : board.circuit = circuit := by
  obtain ⟨inputs, rfl⟩ := h
  rw [run_circuit]
  rfl

-- ======================================================= a whole line

theorem act_pending (board : Board) (command : Command) :
    (board.act command).pending = board.pending := by
  unfold act
  cases command.action <;> rfl

theorem dispatch_pending (board : Board) (line : List UInt8) :
    (board.dispatch line).pending = board.pending := by
  unfold dispatch
  split
  · rfl
  · split
    · rw [act_pending]
    · rfl

/-- A byte that ends no line extends the unfinished one, as far as there is
room. -/
theorem feed_open {board : Board} {byte : UInt8} (hbyte : byte ≠ lineEnd)
    (hroom : board.pending.length ≤ board.circuit.capacity) :
    board.feed byte
      = { board with
          pending := (board.pending ++ [byte]).take board.circuit.capacity } := by
  unfold feed
  rw [if_neg hbyte]
  by_cases hlt : board.pending.length < board.circuit.capacity
  · have hall : (board.pending ++ [byte]).length ≤ board.circuit.capacity := by
      rw [List.length_append, List.length_singleton]
      omega
    rw [if_pos hlt, List.take_of_length_le hall]
  · have hfull : board.circuit.capacity = board.pending.length := by omega
    rw [if_neg hlt, hfull, List.take_left]

theorem take_take_append (n : Nat) (xs ys : List UInt8) :
    (xs.take n ++ ys).take n = (xs ++ ys).take n := by
  have hlen : n - (xs.take n).length = n - xs.length := by
    rw [List.length_take]
    omega
  rw [List.take_append, List.take_append, List.take_take, Nat.min_self, hlen]

/-- Bytes that end no line extend the unfinished one by what there is room
for. -/
theorem feedAll_open {line : List UInt8} :
    ∀ {board : Board}, (∀ b ∈ line, b ≠ lineEnd) →
      board.pending.length ≤ board.circuit.capacity →
      board.feedAll line
        = { board with
            pending := (board.pending ++ line).take board.circuit.capacity } := by
  induction line with
  | nil =>
      intro board _ hroom
      show board = _
      rw [List.append_nil, List.take_of_length_le hroom]
  | cons byte rest ih =>
      intro board hline hroom
      show (board.feed byte).feedAll rest = _
      rw [feed_open (hline byte (List.mem_cons_self ..)) hroom,
        ih (fun b hb => hline b (List.mem_cons_of_mem _ hb)) (List.length_take_le ..)]
      simp only [take_take_append, List.append_assoc, List.singleton_append]

/-- A line with its end is one dispatch of what is kept of it: as many bytes
as there is room for, up to the first zero. -/
theorem feedAll_line {board : Board} {line : List UInt8}
    (hline : ∀ b ∈ line, b ≠ lineEnd) (hpending : board.pending = []) :
    board.feedAll (line ++ [lineEnd])
      = board.dispatch ((line.take board.circuit.capacity).takeWhile (· ≠ 0)) := by
  unfold feedAll
  rw [List.foldl_append]
  show (board.feedAll line).feed lineEnd = _
  rw [feedAll_open hline (by rw [hpending]; exact Nat.zero_le _), hpending,
    List.nil_append]
  unfold feed
  rw [if_pos rfl]
  congr 1
  rw [← hpending]

end Board

end SerialEndpoint
