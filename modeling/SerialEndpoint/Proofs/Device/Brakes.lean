/-
Who writes a motor's brake pin, and what a board in any state makes of the
line that holds the brake (`hear_hold`).

# Who writes it

A command writes a pin that was granted to its component (`write_granted`),
and no pin is granted twice, neither to two components nor to one of them. So
of the whole table only the motor's own two brake commands write its brake
pin (`writes_brake`). Of any other command the pin keeps its level
(`act_brake`).

# What becomes of the line

A board that hears the line for the brake takes a line at its end: its
unfinished one, joined with the line for the brake and cut off at the
capacity (`hear_joined`). Here it matters that no zero is in it
(`Board.Tidy`), for a line ends at the first zero. There are three cases:

- a motor waits. It takes the line as its duty, and no level changes;
- nobody waits and nothing was unfinished. Then the line is that of the
  command, and the brake is held;
- nobody waits and something was unfinished. Then the line is longer than
  that of the command or cut off, and so no longer the same
  (`joined_eq_hold_iff`). It may have become any other command, but of these
  only one matters for this pin. It may even be the line that releases the
  brake, if the capacity cuts it off at the right place.
-/
import Mathlib.Data.List.Pairwise
import SerialEndpoint.Proofs.Device.Requests

namespace SerialEndpoint

open Assignment.IsMotor

-- ============================================================== writers

/-- A command that writes a pin writes a digital pin of its component. -/
theorem write_granted {a : Assignment} (hf : Wiring.Fits a.kind a.wiring) :
    ∀ command ∈ a.commands, ∀ {pin : Pin} {level : Level},
      command.action = .write pin level → pin.number ∈ a.granted .digital := by
  unfold Assignment.commands Assignment.granted Wiring.granted
  generalize a.kind = kind at hf
  generalize a.wiring = wiring at hf
  cases hf with
  | motor pwm direction brake =>
      cases pwm <;> cases direction <;> simp +contextual [Wiring.roles]
  | switch control => simp +contextual [Wiring.roles]
  | voltageSensor collect => simp
  | distanceSensor => simp
  | generic ignored => cases ignored <;> simp

section Motors

variable {a : Assignment} {pwm direction : Option Pin} {brake : Pin}

/-- The digital pins of a motor. -/
theorem granted_motor (hf : Wiring.Fits a.kind a.wiring) (h : a.IsMotor pwm direction brake) :
    a.granted .digital = (direction.toList ++ [brake]).map Pin.number := by
  have hwiring := h.wiring
  unfold Assignment.granted Wiring.granted
  generalize a.kind = kind at hf
  rw [hwiring] at hf ⊢
  generalize hw : Wiring.motor pwm direction brake = wiring at hf ⊢
  cases hf with
  | motor p d b =>
      injection hw with hp hd hb
      subst hp hd hb
      cases p <;> cases d <;> rfl
  | _ => cases hw

variable {assignments : List Assignment} (hs : Served assignments)
  (hgranted : (assignments.flatMap (Assignment.granted .digital)).Nodup)
  (ha : a ∈ assignments) (h : a.IsMotor pwm direction brake)

include hs hgranted ha h

/-- Of all commands only those of the motor itself write its brake pin. -/
theorem writes_brake {command : Command} (hc : command ∈ commandTable assignments) {pin : Pin}
    {level : Level} (haction : command.action = .write pin level)
    (hpin : pin.number = brake.number) : command = hold a brake ∨ command = release a brake := by
  obtain ⟨heach, hapart⟩ := List.nodup_flatMap.1 hgranted
  obtain ⟨b, hb, hmem⟩ := List.mem_flatMap.1 hc
  have hmine : brake.number ∈ a.granted .digital :=
    write_granted (hs.fits a ha) _ h.hold_mem rfl
  have hsame : b = a := by
    by_contra hne
    have : Std.Symm (Function.onFun List.Disjoint (Assignment.granted .digital)) :=
      ⟨fun _ _ hxy _ hx hy => hxy hy hx⟩
    have htheirs := write_granted (hs.fits b hb) _ hmem haction
    exact hapart.forall hb ha hne (hpin ▸ htheirs) hmine
  subst hsame
  rw [h.commands, List.mem_append, List.mem_append] at hmem
  rcases hmem with (hturn | hspeed) | hbrake
  · -- the direction pin is another one
    obtain ⟨turn, hturn, hrow⟩ := List.mem_flatMap.1 hturn
    obtain rfl := Option.mem_toList.1 hturn
    have hown := heach b ha
    rw [granted_motor (hs.fits b ha) h] at hown
    have hother : turn.number ≠ brake.number := by simpa using hown
    have hwritten : pin = turn := by
      rcases List.mem_pair.1 hrow with rfl | rfl
      · injection haction with heq
        exact heq.symm
      · injection haction with heq
        exact heq.symm
    exact absurd (hwritten ▸ hpin) hother
  · obtain ⟨speed, -, rfl⟩ := List.mem_map.1 hspeed
    cases haction
  · exact List.mem_pair.1 hbrake

/-- A command leaves the brake pin high if it is the one that holds the
brake, or if it was high and the command is not the one that releases
it. -/
theorem act_brake {command : Command} (hc : command ∈ commandTable assignments) (board : Board) :
    (board.act command).levels brake.number = some .high ↔
      command = hold a brake
        ∨ board.levels brake.number = some .high ∧ command ≠ release a brake := by
  by_cases hhold : command = hold a brake
  · subst hhold
    exact ⟨fun _ => .inl rfl, fun _ => overlay_same ..⟩
  by_cases hrelease : command = release a brake
  · subst hrelease
    have hlow : (board.act (release a brake)).levels brake.number = some .low := overlay_same ..
    rw [hlow]
    simp [hhold]
  have hkept : (board.act command).levels brake.number = board.levels brake.number := by
    unfold Board.act
    cases haction : command.action with
    | write pin level =>
        refine overlay_other _ _ fun heq => ?_
        rcases writes_brake hs hgranted ha h hc haction heq.symm with heq | heq
        · exact hhold heq
        · exact hrelease heq
    | _ => rfl
  rw [hkept]
  simp [hhold, hrelease]

end Motors

-- ====================================================== unfinished lines

/-- An unfinished line as it comes about: within the capacity and without
zeros. -/
structure Board.Tidy (board : Board) : Prop where
  room : board.pending.length ≤ board.circuit.capacity
  plain : ∀ b ∈ board.pending, b ≠ 0

theorem feed_tidy {board : Board} (h : board.Tidy) {byte : UInt8} (hbyte : byte ≠ 0) :
    (board.feed byte).Tidy := by
  unfold Board.feed
  split
  · have hempty : (Board.dispatch { board with pending := [] }
        (board.pending.takeWhile (· ≠ 0))).pending = [] := Board.dispatch_pending ..
    constructor
    · rw [hempty]
      exact Nat.zero_le _
    · rw [hempty]
      exact fun _ hb => absurd hb List.not_mem_nil
  · split
    · rename_i hlt
      constructor
      · show (board.pending ++ [byte]).length ≤ board.circuit.capacity
        rw [List.length_append, List.length_singleton]
        exact hlt
      · intro b hb
        rcases List.mem_append.1 hb with hb | hb
        · exact h.plain b hb
        · rw [List.mem_singleton.1 hb]
          exact hbyte
    · exact h

theorem feedAll_tidy {bytes : List UInt8} :
    ∀ {board : Board}, board.Tidy → (∀ b ∈ bytes, b ≠ 0) → (board.feedAll bytes).Tidy := by
  induction bytes with
  | nil => exact fun h _ => h
  | cons byte rest ih =>
      intro board h hbytes
      exact ih (feed_tidy h (hbytes byte (List.mem_cons_self ..)))
        fun b hb => hbytes b (List.mem_cons_of_mem _ hb)

theorem start_tidy (circuit : Circuit) : circuit.start.Tidy :=
  ⟨Nat.zero_le _, fun _ hb => absurd hb List.not_mem_nil⟩

-- ====================================================== holding the brake

/-- What a board keeps of a line that comes behind its unfinished one. -/
def Board.joined (board : Board) (line : String) : List UInt8 :=
  (board.pending ++ Utf8.encode line).take board.circuit.capacity

theorem hold_shorter (a : Assignment) (brake : Pin) :
    (hold a brake).line.length < (release a brake).line.length := by
  have hwords : Opcode.motorBrakeHold.word.length < Opcode.motorBrakeRelease.word.length := by
    decide
  unfold Command.line
  simp only [String.length_append]
  exact Nat.add_lt_add_right (Nat.add_lt_add_right hwords _) _

section Holding

variable {a : Assignment} {pwm direction : Option Pin} {brake : Pin}
  {assignments : List Assignment} (hs : Served assignments)
  (hgranted : (assignments.flatMap (Assignment.granted .digital)).Nodup)
  (ha : a ∈ assignments) (h : a.IsMotor pwm direction brake)
  {circuit : Circuit} (hcommands : circuit.commands = commandTable assignments)
  (hfits : ∀ command ∈ a.commands, command.line.length ≤ circuit.capacity)
  {board : Board} (hcircuit : board.circuit = circuit) (htidy : board.Tidy)

include hs ha h htidy in
/-- A board that hears the line for the brake takes what it keeps of it as
a line. -/
theorem hear_joined : board.hear (hold a brake).line
    = { board with pending := [] }.dispatch (board.joined (hold a brake).line) := by
  have hplain := table_plain hs (List.mem_flatMap.2 ⟨a, ha, h.hold_mem⟩)
  have hsent : (hold a brake).line.toList.map sentByte = Utf8.encode (hold a brake).line := by
    have hframe := congrArg Frame.bytes (frame_plain hplain)
    exact List.append_cancel_right hframe
  rw [hear_behind htidy.room, hsent]
  unfold Board.joined
  rw [List.takeWhile_eq_self_iff.2]
  intro b hb
  rcases List.mem_append.1 (List.mem_of_mem_take hb) with hb | hb
  · exact decide_eq_true (htidy.plain b hb)
  · exact decide_eq_true (encode_plain_bytes hplain b hb).2

include hs ha h hfits hcircuit in
/-- It is the line of the command only if nothing stood before it. -/
theorem joined_eq_hold_iff :
    board.joined (hold a brake).line = Utf8.encode (hold a brake).line ↔ board.pending = [] := by
  have hplain := table_plain hs (List.mem_flatMap.2 ⟨a, ha, h.hold_mem⟩)
  have hlength : (Utf8.encode (hold a brake).line).length = (hold a brake).line.length := by
    rw [encode_plain hplain, List.length_map, String.length_toList]
  have hroom : (hold a brake).line.length < board.circuit.capacity := by
    rw [hcircuit]
    exact Nat.lt_of_lt_of_le (hold_shorter a brake) (hfits _ h.release_mem)
  unfold Board.joined
  constructor
  · intro heq
    have hlengths := congrArg List.length heq
    rw [List.length_take, List.length_append, hlength] at hlengths
    exact List.length_eq_zero_iff.1 (by omega)
  · intro hempty
    rw [hempty, List.nil_append, List.take_of_length_le (by omega)]

include hs hgranted ha h hcommands hfits hcircuit htidy in
/-- After the line that holds the brake the brake pin is high exactly if
the board was ready for a line, or the pin was high and what the line
became is not the line that releases the brake. -/
theorem hear_hold :
    (board.hear (hold a brake).line).levels brake.number = some .high ↔
      (board.pending = [] ∧ board.waiting? = none)
        ∨ board.levels brake.number = some .high
          ∧ ¬ (board.waiting? = none
            ∧ board.joined (hold a brake).line = Utf8.encode (release a brake).line) := by
  subst hcircuit
  have hhold := List.mem_flatMap.2 ⟨a, ha, h.hold_mem⟩
  have hrelease := List.mem_flatMap.2 ⟨a, ha, h.release_mem⟩
  rw [hear_joined hs ha h htidy, ← joined_eq_hold_iff hs ha h hfits rfl]
  unfold Board.dispatch
  rw [show Board.waiting? { board with pending := [] } = board.waiting? from rfl]
  cases hwaiting : board.waiting? with
  | some slot => simp [Board.setDuty]
  | none =>
      have hlookup : ∀ command ∈ commandTable assignments,
          board.circuit.command? (board.joined (hold a brake).line) = some command ↔
            Utf8.encode command.line = board.joined (hold a brake).line := by
        intro command hc
        rw [command?_eq_some_iff hs hcommands]
        exact ⟨fun h => h.2, fun heq => ⟨hc, heq⟩⟩
      have hholds := hlookup _ hhold
      have hreleases := hlookup _ hrelease
      simp only
      cases hfound : board.circuit.command? (board.joined (hold a brake).line) with
      | none =>
          rw [hfound] at hholds hreleases
          have hnothold : board.joined (hold a brake).line ≠ Utf8.encode (hold a brake).line :=
            fun heq => by cases hholds.2 heq.symm
          have hnotrelease : board.joined (hold a brake).line
              ≠ Utf8.encode (release a brake).line :=
            fun heq => by cases hreleases.2 heq.symm
          simp [hnothold, hnotrelease]
      | some command =>
          have hc := (command?_eq_some_iff hs hcommands).1 hfound
          rw [hfound, Option.some_inj, eq_comm (b := board.joined _)] at hholds hreleases
          have hact := act_brake hs hgranted ha h hc.1
            { board with pending := [], dispatched := board.dispatched + 1 }
          rw [hholds, ne_eq, hreleases] at hact
          rw [hact]
          simp

end Holding

end SerialEndpoint
