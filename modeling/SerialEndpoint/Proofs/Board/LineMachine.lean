/-
A machine of lines. It takes whole lines, and of the motors it knows only
which one waits for its duty, if any does. It is what a board should look
like from outside, written down without bytes, slots or positions.

# Events

What comes in as bytes is cut into lines at the line ends, and readings come
in between (`eventsIn`). The bytes of a line that is begun are carried along
through readings and through output that is taken away. So the lines among
the events are those of the bytes that were fed, whatever came in between
them (`eventsIn_lines`), and there are as many as line ends.

# What is kept

What the machine counts is right on every run:

- each line is dispatched or goes unmatched, and never both
  (`take_counts`, `run_counts`). A line that is taken as a duty is dispatched
  without a command being performed;
- each command that is performed and replied to has one reply (`Counted`),
  since an action has one reply or none (`act_replies`);
- no reply has a line end in it (`Unbroken.run`), if the token for a timeout
  has none: the other replies are digits and a point. In UTF-8 the byte of
  the line end stands for nothing else (`lineEnd_notMem_char`), so on the
  stream each reply is one line.
-/
import SerialEndpoint.Proofs.Board.Numerals
import SerialEndpoint.Proofs.Board.Runs
import SerialEndpoint.Proofs.Link.Lines
import SerialEndpoint.Proofs.Replies

namespace SerialEndpoint

-- =============================================================== events

/-- What happens to a machine of lines. -/
inductive Event where
  | line (bytes : List UInt8)
  | reading (pin : UInt8) (raw : UInt16)
  | range (sensor : String) (distance : Option UInt16)
deriving DecidableEq

/-- The line that an event is. -/
def Event.line? : Event → Option (List UInt8)
  | .line bytes => some bytes
  | _ => none

/-- The events in some inputs, with some bytes of a line begun before them,
and the bytes of the line that is begun behind them. -/
def eventsIn (begun : List UInt8) : List Input → List Event × List UInt8
  | [] => ([], begun)
  | .byte byte :: rest =>
    if byte = lineEnd then
      let later := eventsIn [] rest
      (.line begun :: later.1, later.2)
    else eventsIn (begun ++ [byte]) rest
  | .reading pin raw :: rest =>
    let later := eventsIn begun rest
    (.reading pin raw :: later.1, later.2)
  | .range sensor distance :: rest =>
    let later := eventsIn begun rest
    (.range sensor distance :: later.1, later.2)
  | .take :: rest => eventsIn begun rest

/-- The byte that an input feeds. -/
def Input.byte? : Input → Option UInt8
  | .byte fed => some fed
  | _ => none

/-- The bytes that are fed. -/
def bytesFed (inputs : List Input) : List UInt8 := inputs.filterMap Input.byte?

/-- The lines among the events are the lines of the bytes that are fed. -/
theorem eventsIn_lines (inputs : List Input) :
    ∀ {begun : List UInt8}, lineEnd ∉ begun →
      (eventsIn begun inputs).1.filterMap Event.line? = endedLines (begun ++ bytesFed inputs)
        ∧ (eventsIn begun inputs).2 = unfinished (begun ++ bytesFed inputs) := by
  induction inputs with
  | nil =>
      intro begun hbegun
      rw [show bytesFed [] = [] from rfl, List.append_nil, endedLines_open hbegun,
        unfinished_open hbegun]
      exact ⟨rfl, rfl⟩
  | cons input rest ih =>
      intro begun hbegun
      cases input with
      | byte byte =>
          rw [show bytesFed (.byte byte :: rest) = byte :: bytesFed rest from rfl, eventsIn]
          by_cases hend : byte = lineEnd
          · subst hend
            obtain ⟨hlines, hopen⟩ := ih List.not_mem_nil
            rw [if_pos rfl, endedLines_line hbegun, unfinished_line hbegun]
            exact ⟨congrArg _ hlines, hopen⟩
          · have hlonger : lineEnd ∉ begun ++ [byte] :=
              List.not_mem_append hbegun fun hmem => hend (List.mem_singleton.1 hmem).symm
            have hrest := ih hlonger
            rw [List.append_assoc] at hrest
            rw [if_neg hend]
            exact hrest
      | reading pin raw => exact ih hbegun
      | range sensor distance => exact ih hbegun
      | take => exact ih hbegun

/-- There are as many lines as there are line ends. -/
theorem endedLines_length (bytes : List UInt8) :
    (endedLines bytes).length = bytes.count lineEnd := by
  induction bytes using lineInduction with
  | hopen bytes hopen =>
      rw [endedLines_open hopen, List.count_eq_zero_of_not_mem hopen]
      rfl
  | hline line rest hline ih =>
      rw [endedLines_line hline, List.length_cons, ih, List.count_append,
        List.count_eq_zero_of_not_mem hline, List.count_cons_self, Nat.zero_add]

-- ============================================================= machine

/-- A machine of lines: the one motor that waits for its duty, if any does,
and what can be seen. -/
structure LineMachine where
  waiting : Option (String × Pin) := none
  levels : UInt8 → Option Level := fun _ => none
  duties : UInt8 → Option UInt8 := fun _ => none
  readings : UInt8 → UInt16 := fun _ => 0
  ranges : String → Option UInt16 := fun _ => none
  replies : List String := []
  /-- The commands that were performed. -/
  performed : List Command := []
  dispatched : Nat := 0
  unmatched : Nat := 0

/-- What is kept of a line: as many bytes as there is room for, up to the
first zero. -/
def keptOfLine (capacity : Nat) (line : List UInt8) : List UInt8 :=
  (line.take capacity).takeWhile (· ≠ 0)

/-- A number held between two others. -/
def clamp (low high number : Int) : Int := max low (min number high)

theorem clamp_duty (number : Int) :
    (clamp 0 fullDuty number).toNat = min number.toNat fullDuty := by
  unfold clamp fullDuty
  omega

namespace LineMachine

/-- Replies with a text. -/
def reply (machine : LineMachine) (text : String) : LineMachine :=
  { machine with replies := machine.replies ++ [text] }

/-- Does what a command says. -/
def act (circuit : Circuit) (machine : LineMachine) (command : Command) : LineMachine :=
  match command.action with
  | .write pin level => { machine with levels := overlay machine.levels pin.number (some level) }
  | .awaitSpeed pwm => { machine with waiting := some (command.component, pwm) }
  | .readVoltage pin => machine.reply (circuit.voltage.reply (machine.readings pin.number))
  | .readDistance =>
    machine.reply (match machine.ranges command.component with
      | some distance => toString distance.toNat
      | none => circuit.ranging.timeoutToken)
  | .placeholder => machine

/-- Takes a line. If a motor waits the line is its duty, whatever it says;
else it is the one command that it equals, if there is one. -/
def take (circuit : Circuit) (machine : LineMachine) (line : List UInt8) : LineMachine :=
  let kept := keptOfLine circuit.capacity line
  match machine.waiting with
  | some (_, pwm) =>
    { machine with
      waiting := none
      duties := overlay machine.duties pwm.number
        (some (UInt8.ofNat (clamp 0 fullDuty (leadingInt kept)).toNat))
      dispatched := machine.dispatched + 1 }
  | none =>
    match circuit.commands.filter fun command => Utf8.encode command.line == kept with
    | [command] =>
      { machine with
        performed := machine.performed ++ [command]
        dispatched := machine.dispatched + 1 }.act circuit command
    | _ => { machine with unmatched := machine.unmatched + 1 }

theorem take_waiting {circuit : Circuit} {machine : LineMachine} {motor : String × Pin}
    (h : machine.waiting = some motor) (line : List UInt8) :
    machine.take circuit line = { machine with
      waiting := none
      duties := overlay machine.duties motor.2.number (some (UInt8.ofNat
        (clamp 0 fullDuty (leadingInt (keptOfLine circuit.capacity line))).toNat))
      dispatched := machine.dispatched + 1 } := by
  unfold take
  rw [h]

theorem take_idle {circuit : Circuit} {machine : LineMachine} (h : machine.waiting = none)
    (line : List UInt8) :
    machine.take circuit line = match circuit.commands.filter fun command =>
        Utf8.encode command.line == keptOfLine circuit.capacity line with
      | [command] =>
        { machine with
          performed := machine.performed ++ [command]
          dispatched := machine.dispatched + 1 }.act circuit command
      | _ => { machine with unmatched := machine.unmatched + 1 } := by
  unfold take
  split
  · rename_i hsome
    rw [h] at hsome
    cases hsome
  · rfl

/-- What a machine does on an event. -/
def react (circuit : Circuit) (machine : LineMachine) : Event → LineMachine
  | .line bytes => machine.take circuit bytes
  | .reading pin raw => { machine with readings := overlay machine.readings pin raw }
  | .range sensor distance => { machine with ranges := overlay machine.ranges sensor distance }

/-- What a machine does on some events in order. -/
def run (circuit : Circuit) (machine : LineMachine) (events : List Event) : LineMachine :=
  events.foldl (react circuit) machine

-- ============================================================== counts

theorem act_keeps (circuit : Circuit) (machine : LineMachine) (command : Command) :
    (machine.act circuit command).performed = machine.performed
      ∧ (machine.act circuit command).dispatched = machine.dispatched
      ∧ (machine.act circuit command).unmatched = machine.unmatched := by
  unfold act
  cases command.action <;> exact ⟨rfl, rfl, rfl⟩

/-- A command has one reply, or none. -/
theorem act_replies (circuit : Circuit) (machine : LineMachine) (command : Command) :
    (machine.act circuit command).replies.length
      = machine.replies.length + [command].countP (·.action.replies) := by
  unfold act
  cases haction : command.action <;>
    simp [reply, Action.replies, haction]

/-- A machine whose counts are right: every command that was performed and
is replied to has a reply. -/
def Counted (machine : LineMachine) : Prop :=
  machine.replies.length = machine.performed.countP (·.action.replies)

theorem take_counts (circuit : Circuit) {machine : LineMachine} (h : machine.Counted)
    (line : List UInt8) :
    let after := machine.take circuit line
    after.Counted
      ∧ after.dispatched + after.unmatched = machine.dispatched + machine.unmatched + 1 := by
  intro after
  unfold after take
  cases machine.waiting with
  | some motor =>
      refine ⟨h, ?_⟩
      show machine.dispatched + 1 + machine.unmatched = _
      omega
  | none =>
      simp only
      split
      · rename_i command _
        constructor
        · unfold Counted
          rw [act_replies, (act_keeps ..).1, List.countP_append, ← h]
        · rw [(act_keeps ..).2.1, (act_keeps ..).2.2]
          show machine.dispatched + 1 + machine.unmatched = _
          omega
      · exact ⟨h, rfl⟩

theorem start_counted : Counted {} := rfl

/-- Every line is counted once. -/
theorem run_counts (circuit : Circuit) (events : List Event) :
    ∀ {machine : LineMachine}, machine.Counted →
      let after := machine.run circuit events
      after.Counted ∧ after.dispatched + after.unmatched
        = machine.dispatched + machine.unmatched + (events.filterMap Event.line?).length := by
  induction events with
  | nil => exact fun h => ⟨h, rfl⟩
  | cons event rest ih =>
      intro machine h after
      cases event with
      | line bytes =>
          obtain ⟨htaken, hfirst⟩ := take_counts circuit h bytes
          obtain ⟨hcounted, hrest⟩ := ih htaken
          refine ⟨hcounted, hrest.trans ?_⟩
          have hmore : ((Event.line bytes :: rest).filterMap Event.line?).length
              = (rest.filterMap Event.line?).length + 1 := rfl
          omega
      | reading pin raw => exact ih h
      | range sensor distance => exact ih h

end LineMachine

-- =============================================================== replies

/-- No byte of a character other than the line end is the line end. -/
theorem lineEnd_notMem_char {c : Char} (hc : c ≠ '\n') : lineEnd ∉ String.utf8EncodeChar c := by
  have hlarge : ∀ n, 128 ≤ n → n < 256 → lineEnd ≠ UInt8.ofNat n := by
    intro n hlow hhigh heq
    have hcode := congrArg UInt8.toNat heq
    rw [UInt8.toNat_ofNat', Nat.mod_eq_of_lt hhigh] at hcode
    simp only [lineEnd, UInt8.reduceToNat] at hcode
    omega
  -- only an encoding of one byte has a byte below 128
  rw [String.utf8EncodeChar.eq_1]
  split_ifs with hone htwo hthree
  · intro hmem
    have hcode := congrArg UInt8.toNat (List.mem_singleton.1 hmem)
    rw [UInt8.toNat_ofNat', Nat.mod_eq_of_lt (by omega)] at hcode
    exact hc (Char.toNat_inj.1 hcode.symm)
  · simp only [List.mem_cons, List.not_mem_nil, or_false, not_or]
    exact ⟨hlarge _ (by omega) (by omega), hlarge _ (by omega) (by omega)⟩
  · simp only [List.mem_cons, List.not_mem_nil, or_false, not_or]
    exact ⟨hlarge _ (by omega) (by omega), hlarge _ (by omega) (by omega),
      hlarge _ (by omega) (by omega)⟩
  · simp only [List.mem_cons, List.not_mem_nil, or_false, not_or]
    exact ⟨hlarge _ (by omega) (by omega), hlarge _ (by omega) (by omega),
      hlarge _ (by omega) (by omega), hlarge _ (by omega) (by omega)⟩

theorem lineEnd_notMem_encode {text : String} (h : '\n' ∉ text.toList) :
    lineEnd ∉ Utf8.encode text := by
  unfold Utf8.encode
  rw [List.mem_flatMap]
  rintro ⟨c, hc, hmem⟩
  exact lineEnd_notMem_char (fun hline => h (hline ▸ hc)) hmem

namespace LineMachine

/-- No reply has a line end in it. -/
def Unbroken (machine : LineMachine) : Prop := ∀ reply ∈ machine.replies, '\n' ∉ reply.toList

theorem Unbroken.reply {machine : LineMachine} (h : machine.Unbroken) {text : String}
    (htext : '\n' ∉ text.toList) : (machine.reply text).Unbroken := by
  intro reply hreply
  rcases List.mem_append.1 hreply with hreply | hreply
  · exact h reply hreply
  · rw [List.mem_singleton.1 hreply]
    exact htext

theorem Unbroken.act {circuit : Circuit} (htoken : '\n' ∉ circuit.ranging.timeoutToken.toList)
    {machine : LineMachine} (h : machine.Unbroken) (command : Command) :
    (machine.act circuit command).Unbroken := by
  unfold LineMachine.act
  cases command.action with
  | readVoltage pin => exact h.reply fun hmem => (isPlain_fixed _ _ _ hmem).2.1 rfl
  | readDistance =>
      apply h.reply
      cases machine.ranges command.component with
      | none => exact htoken
      | some distance => exact fun hmem => (isPlain_digits _ _ hmem).2.1 rfl
  | _ => exact h

theorem Unbroken.run {circuit : Circuit} (htoken : '\n' ∉ circuit.ranging.timeoutToken.toList)
    (events : List Event) :
    ∀ {machine : LineMachine}, machine.Unbroken → (machine.run circuit events).Unbroken := by
  induction events with
  | nil => exact fun h => h
  | cons event rest ih =>
      intro machine h
      apply ih
      cases event with
      | line bytes =>
          show (machine.take circuit bytes).Unbroken
          cases hwaits : machine.waiting with
          | some motor =>
              rw [take_waiting hwaits]
              exact h
          | none =>
              rw [take_idle hwaits]
              split
              · apply Unbroken.act htoken
                exact h
              · exact h
      | reading pin raw => exact h
      | range sensor distance => exact h

end LineMachine

end SerialEndpoint
