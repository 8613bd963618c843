/-
Calls over links on which some sends fail. The sends of a link are
numbered, and it is given which numbers fail (`FailsAt`); one that fails
delivers nothing.

# Up to the first failure

`StopsAt` says that of so many sends, from a certain number on, just these
many come before the first that fails. There is one such number
(`StopsAt.unique`), and it goes up by one with each send in front that does
not fail (`StopsAt.delivered`). By induction on the lines a link delivers
them up to the first send that fails, and nothing behind it, and it has tried
one line more than it has delivered unless it has delivered all
(`sendAll_failsAt`). A call is a script, and a script is its lines
(`script_failsAt`).

# What comes before what

A call's lines stand in the order of its purpose: for a motor first its
duty and its direction, at the end the release of the brake, for a drive
train the left motor before the right one. What is delivered is a front of
them. So if a line was tried, all lines in front of it were delivered
(`SentUpTo.front`), and that is all there is to the order of effects: it is
an order of lines in a script. A front never releases a brake before its
motor is set, and never gets to the right motor before the left one has been
driven (`delivered_until_failure`).

Two cases need care. The lines of a script end where a key is missing, so
that nothing could be tried behind it (`front_succeeds`). And the parts of a
motor's script for duty and direction may be empty, but they are never a
fault (`drive_fault`), so the release is the first place where one can stand.
-/
import SerialEndpoint.Link.Rehearsal
import SerialEndpoint.Link.Transport
import SerialEndpoint.Proofs.Device.Calls

namespace SerialEndpoint

-- =============================================================== links

/-- A kind of link on which certain sends fail, by their numbers: one that
fails delivers nothing, any other one delivers its message. -/
structure FailsAt (l : Type) [Link l] (fails : Nat → Prop) (sound : l → Prop) (sends : l → Nat)
    (delivered : l → List String) : Prop where
  pairs : SendsPairs l
  delivers {link : l} (hsound : sound link) (hdue : ¬ fails (sends link)) (message : String) :
    ∃ after, Link.send message link = .ok () after ∧ sound after
      ∧ sends after = sends link + 1 ∧ delivered after = delivered link ++ [message]
  refuses {link : l} (hsound : sound link) (hdue : fails (sends link)) (message : String) :
    ∃ fault after, Link.send message link = .error fault after ∧ sound after
      ∧ sends after = sends link + 1 ∧ delivered after = delivered link

theorem Rehearsal.send_run (message : String) (link : Rehearsal) :
    Rehearsal.send message link =
      let next := { link with attempts := link.attempts + 1 }
      if next.attempts ∈ link.failing then .error .closed next
      else .ok () { next with sent := link.sent ++ [message] } := by
  unfold Rehearsal.send
  rw [bind_run]
  dsimp only [get, getThe, MonadStateOf.get, EStateM.get]
  split
  · rfl
  · rfl

/-- A rehearsal fails the sends that it is told to, counted from one. -/
theorem rehearsal_failsAt (failing : List Nat) :
    FailsAt Rehearsal (fun number => number + 1 ∈ failing) (fun link => link.failing = failing)
      Rehearsal.attempts Rehearsal.sent where
  pairs _ _ := rfl
  delivers := by
    rintro link rfl hdue message
    exact ⟨_, (Rehearsal.send_run message link).trans (if_neg hdue), rfl, rfl, rfl⟩
  refuses := by
    rintro link rfl hdue message
    exact ⟨_, _, (Rehearsal.send_run message link).trans (if_pos hdue), rfl, rfl, rfl⟩

/-- A rehearsal that is told nothing fails nothing. -/
theorem rehearsal_calm : FailsAt Rehearsal (fun _ => False) (fun link => link.failing = [])
    Rehearsal.attempts Rehearsal.sent := by
  have hcalm := rehearsal_failsAt []
  simp only [List.not_mem_nil] at hcalm
  exact hcalm

/-- On a transport, too, a message with a second one behind it is two
sends. -/
theorem transport_sendsPairs {π : Type} [Peer π] : SendsPairs (Transport π) :=
  fun _ _ => rfl

-- ======================================================= first failure

/-- The number of sends, out of some that begin with a certain one, that
come before the first that fails. -/
structure StopsAt (fails : Nat → Prop) (first total n : Nat) : Prop where
  le : n ≤ total
  before : ∀ i < n, ¬ fails (first + i)
  here : n < total → fails (first + n)

/-- There is only one such number. -/
theorem StopsAt.unique {fails : Nat → Prop} {first total m n : Nat}
    (hm : StopsAt fails first total m) (hn : StopsAt fails first total n) : m = n := by
  rcases Nat.lt_trichotomy m n with hlt | heq | hlt
  · exact absurd (hm.here (Nat.lt_of_lt_of_le hlt hn.le)) (hn.before m hlt)
  · exact heq
  · exact absurd (hn.here (Nat.lt_of_lt_of_le hlt hm.le)) (hm.before n hlt)

/-- Where nothing fails, nothing is left out. -/
theorem StopsAt.all {first total n : Nat} (h : StopsAt (fun _ => False) first total n) :
    n = total :=
  Nat.le_antisymm h.le (Nat.not_lt.1 fun hlt => h.here hlt)

/-- If the front of some sends comes before the first that fails, none of
the front fails. -/
theorem StopsAt.front {fails : Nat → Prop} {first lead total m n : Nat}
    (hm : StopsAt fails first lead m) (hn : StopsAt fails first total n) (hlead : lead ≤ n) :
    m = lead := by
  rcases Nat.lt_or_eq_of_le hm.le with hlt | heq
  · exact absurd (hm.here hlt) (hn.before m (Nat.lt_of_lt_of_le hlt hlead))
  · exact heq

theorem StopsAt.nil (fails : Nat → Prop) (first : Nat) : StopsAt fails first 0 0 :=
  ⟨Nat.le_refl 0, fun _ hi => absurd hi (Nat.not_lt_zero _), fun h => absurd h (Nat.lt_irrefl 0)⟩

/-- If the first send fails, none comes before. -/
theorem StopsAt.refused {fails : Nat → Prop} {first : Nat} (h : fails first) (total : Nat) :
    StopsAt fails first (total + 1) 0 :=
  ⟨Nat.zero_le _, fun _ hi => absurd hi (Nat.not_lt_zero _), fun _ => h⟩

/-- If the first send does not fail, it comes before with those that come
before among the rest. -/
theorem StopsAt.delivered {fails : Nat → Prop} {first total n : Nat} (h : ¬ fails first)
    (hrest : StopsAt fails (first + 1) total n) : StopsAt fails first (total + 1) (n + 1) where
  le := Nat.succ_le_succ hrest.le
  before i hi := by
    cases i with
    | zero => exact h
    | succ i =>
        rw [show first + (i + 1) = first + 1 + i by omega]
        exact hrest.before i (Nat.lt_of_succ_lt_succ hi)
  here hlt := by
    rw [show first + (n + 1) = first + 1 + n by omega]
    exact hrest.here (Nat.lt_of_succ_lt_succ hlt)

-- =============================================================== lines

theorem lines_front (script more : Script) :
    script.lines <+: Script.lines (script ++ more) := by
  rw [lines_append]
  exact List.prefix_append ..

section Lines

variable {l : Type} [Link l] {fails : Nat → Prop} {sound : l → Prop} {sends : l → Nat}
  {delivered : l → List String} (hl : FailsAt l fails sound sends delivered)

/-- A link after some lines were to be sent, of which so many came before
the first failure: these were delivered, and one more was tried if there
was one. -/
structure SentUpTo (sound : l → Prop) (sends : l → Nat) (delivered : l → List String) (link : l)
    (lines : List String) (n : Nat) (after : l) : Prop where
  sound : sound after
  sends : sends after = sends link + min (n + 1) lines.length
  delivered : delivered after = delivered link ++ lines.take n

omit [Link l] in
/-- If a line was tried, all lines before it were delivered. -/
theorem SentUpTo.front {link after : l} {lines lead : List String} {n : Nat}
    (h : SentUpTo sound sends delivered link lines n after) (hlead : lead <+: lines)
    (htried : sends link + lead.length < sends after) : lead <+: lines.take n := by
  rw [h.sends] at htried
  exact List.prefix_take_iff.2 ⟨hlead, by omega⟩

include hl

/-- Lines that are sent are delivered up to the first send that fails. -/
theorem sendAll_failsAt (lines : List String) :
    ∀ {link : l}, sound link → ∃ n, StopsAt fails (sends link) lines.length n
      ∧ SentUpTo sound sends delivered link lines n (stateAfter (sendAll lines link))
      ∧ (n = lines.length ↔ ∃ after, sendAll lines link = .ok () after) := by
  induction lines with
  | nil =>
      intro link hsound
      exact ⟨0, .nil _ _, ⟨hsound, rfl, (List.append_nil _).symm⟩, fun _ => ⟨_, rfl⟩, fun _ => rfl⟩
  | cons line rest ih =>
      intro link hsound
      rw [sendAll_cons_run]
      by_cases hdue : fails (sends link)
      · obtain ⟨fault, after, hsend, hafter, hsends, hdelivered⟩ := hl.refuses hsound hdue line
        rw [hsend]
        refine ⟨0, .refused hdue rest.length, ⟨hafter, ?_, ?_⟩, ?_⟩
        · exact hsends.trans (by rw [List.length_cons]; omega)
        · exact hdelivered.trans (List.append_nil _).symm
        · constructor
          · intro hall
            cases hall
          · rintro ⟨after, hok⟩
            cases hok
      · obtain ⟨between, hsend, hbetween, hsends, hdelivered⟩ := hl.delivers hsound hdue line
        obtain ⟨n, hstops, hsent, hall⟩ := ih hbetween
        rw [hsend]
        rw [hsends] at hstops
        refine ⟨n + 1, hstops.delivered hdue, ⟨hsent.sound, ?_, ?_⟩, ?_⟩
        · have hcount := hsent.sends
          rw [hsends] at hcount
          exact hcount.trans (by rw [List.length_cons]; omega)
        · have hfront := hsent.delivered
          rw [hdelivered] at hfront
          exact hfront.trans (by rw [List.take_succ_cons, List.append_assoc]; rfl)
        · rw [← hall, List.length_cons, Nat.add_right_cancel_iff]

/-- What a script delivers: its lines up to the first send that fails. It
succeeds if no send fails and no key is missing. -/
theorem script_failsAt (script : Script) {link : l} (hsound : sound link) :
    ∃ n, StopsAt fails (sends link) script.lines.length n
      ∧ SentUpTo sound sends delivered link script.lines n (stateAfter (script.make link))
      ∧ ((∃ after, script.make link = .ok () after) ↔
          n = script.lines.length ∧ script.fault? = none) := by
  obtain ⟨n, hstops, hsent, hall⟩ := sendAll_failsAt hl script.lines hsound
  refine ⟨n, hstops, ?_, ?_⟩
  · rw [make_eq_sendAll hl.pairs]
    cases hrun : sendAll script.lines link with
    | error fault after =>
        rw [hrun] at hsent
        exact hsent
    | ok done after =>
        rw [hrun] at hsent
        cases script.fault? <;> exact hsent
  · rw [make_eq_sendAll hl.pairs, hall]
    cases hrun : sendAll script.lines link with
    | error fault after => simp
    | ok done after => cases script.fault? <;> simp

/-- If a line behind those of a script was tried, the script had succeeded. -/
theorem front_succeeds {script more : Script} {link after : l} {n : Nat} (hsound : sound link)
    (hstops : StopsAt fails (sends link) (Script.lines (script ++ more)).length n)
    (hsent : SentUpTo sound sends delivered link (Script.lines (script ++ more)) n after)
    (htried : sends link + script.lines.length < sends after) :
    ∃ between, script.make link = .ok () between := by
  obtain ⟨m, hstops', -, hdone⟩ := script_failsAt hl script hsound
  have hreached : script.lines.length ≤ n := by
    have hfront := (hsent.front (lines_front script more) htried).length_le
    rw [List.length_take] at hfront
    omega
  -- Behind a script with a fault stand no lines, so none could be tried.
  have hfault : script.fault? = none := by
    refine Decidable.byContradiction fun hfault => ?_
    have hcount := hsent.sends
    rw [lines_append, if_neg hfault, List.append_nil] at hcount
    omega
  exact hdone.2 ⟨hstops'.front hstops hreached, hfault⟩

end Lines

-- ============================================================== motors

/-- What a motor that is not to stand still asks for before its brake is
released. -/
def Motor.drive (motor : Motor) (control : Binary64) : Script :=
  motor.speedScript control ++ motor.directionScript control

theorem script_moving {control : Binary64} (h : control.isZero = false) (motor : Motor) :
    motor.script control = motor.drive control ++ [motor.keymap.request .release] := by
  unfold Motor.script
  rw [h]
  rfl

theorem fault_append (script more : Script) (h : script.fault? = none) :
    Script.fault? (script ++ more) = more.fault? := by
  induction script with
  | nil => rfl
  | cons entry rest ih =>
      cases entry with
      | error fault => cases h
      | ok request => exact ih h

theorem request_of_get? {keymap : Keymap} {operation : Operation} {line : String}
    (h : keymap.get? operation = some line) : keymap.request operation = .ok (.single line) := by
  unfold Keymap.request Keymap.line
  rw [h]
  rfl

/-- A motor asks for a duty exactly if it has a line for one. -/
theorem speedScript_cases (motor : Motor) (control : Binary64) :
    (motor.keymap.get? .speed = none ∧ motor.speedScript control = [])
      ∨ ((motor.keymap.get? .speed).isSome
        ∧ ∃ line, motor.speedScript control = [.ok (.pair line (toString (dutyFor control)))]) := by
  unfold Motor.speedScript
  cases motor.keymap.get? .speed with
  | none => exact .inl ⟨rfl, rfl⟩
  | some line => exact .inr ⟨rfl, line, rfl⟩

/-- A motor asks for a direction exactly if it has a line for forwards,
whatever its line for backwards. -/
theorem directionScript_cases (motor : Motor) (control : Binary64) :
    (motor.keymap.get? .forwards = none ∧ motor.directionScript control = [])
      ∨ ((motor.keymap.get? .forwards).isSome
        ∧ ∃ line, motor.directionScript control = [.ok (.single line)]) := by
  unfold Motor.directionScript
  by_cases hboth : motor.hasDirection = true
  · rw [if_pos hboth]
    obtain ⟨hsome, hbackwards⟩ := (Bool.and_eq_true _ _).mp hboth
    obtain ⟨forwards, hforwards⟩ := Option.isSome_iff_exists.1 hsome
    obtain ⟨backwards, hbackwards⟩ := Option.isSome_iff_exists.1 hbackwards
    refine .inr ⟨hsome, ?_⟩
    cases control.isPositive with
    | true => exact ⟨forwards, by rw [if_pos rfl, request_of_get? hforwards]⟩
    | false => exact ⟨backwards, by rw [if_neg Bool.false_ne_true, request_of_get? hbackwards]⟩
  · rw [if_neg hboth]
    cases motor.keymap.get? .forwards with
    | none => exact .inl ⟨rfl, rfl⟩
    | some line => exact .inr ⟨rfl, line, rfl⟩

/-- To drive, a motor asks for nothing that its keymap does not have. -/
theorem drive_fault (motor : Motor) (control : Binary64) :
    (motor.drive control).fault? = none := by
  unfold Motor.drive
  rcases speedScript_cases motor control with ⟨-, hspeed⟩ | ⟨-, _, hspeed⟩ <;>
    rcases directionScript_cases motor control with ⟨-, hturn⟩ | ⟨-, _, hturn⟩ <;>
    rw [hspeed, hturn] <;> rfl

theorem lines_release (keymap : Keymap) :
    Script.lines [keymap.request .release] = (keymap.get? .release).toList := by
  unfold Keymap.request Keymap.line
  cases keymap.get? .release <;> rfl

/-- The release of a motor's brake comes right behind all that drives it. -/
theorem script_released (before : Script) (motor : Motor) {control : Binary64}
    (hmoving : control.isZero = false) (behind : Script) :
    before ++ (motor.script control ++ behind)
      = before ++ motor.drive control ++ [motor.keymap.request .release] ++ behind := by
  rw [script_moving hmoving, List.append_assoc, List.append_assoc, List.append_assoc]

theorem lines_released {before : Script} (hbefore : before.fault? = none) (motor : Motor)
    (control : Binary64) (behind : Script) :
    Script.lines (before ++ motor.drive control) ++ (motor.keymap.get? .release).toList
      <+: Script.lines
        (before ++ motor.drive control ++ [motor.keymap.request .release] ++ behind) := by
  have hlead : Script.fault? (before ++ motor.drive control) = none :=
    (fault_append before _ hbefore).trans (drive_fault motor control)
  have hrelease := lines_append (before ++ motor.drive control) [motor.keymap.request .release]
  rw [if_pos hlead, lines_release] at hrelease
  rw [← hrelease]
  exact lines_front _ _

-- =============================================================== calls

/-- A call leaves the link as its script does. -/
theorem perform_after {l : Type} [Link l] (device : Device) {call : Call}
    (hcall : call ≠ .collect) (link : l) :
    (stateAfter (device.perform call (device, link))).2
      = stateAfter ((device.script call).make link) := by
  obtain ⟨device', hperform⟩ := perform_script device hcall link
  rw [hperform]
  cases (device.script call).make link <;> rfl

/-- A call that drives a motor does nothing else. -/
theorem script_driving {device : Device} {call : Call} (h : device.asks call ≠ []) :
    device.script call = drivingScript (device.asks call) := by
  cases device with
  | motor motor => rfl
  | train train => rfl
  | switch switch => exact absurd rfl h
  | voltage sensor => exact absurd rfl h
  | distance sensor => exact absurd rfl h

/-- Motors are driven by one script after the other. -/
theorem drivingScript_cons (ask : Motor × Binary64) (rest : List (Motor × Binary64)) :
    drivingScript (ask :: rest) = ask.1.script ask.2.clampUnit ++ drivingScript rest :=
  List.flatMap_cons

theorem drivingScript_append (asks more : List (Motor × Binary64)) :
    drivingScript (asks ++ more) = drivingScript asks ++ drivingScript more :=
  List.flatMap_append

-- ========================================================= the theorem

/-- What a call delivers over a link on which some sends fail. On a link
without failures it delivers all its lines; on another one just those up to
the first send that fails, which is the last one that it tries. So the
release of a motor's brake is tried only when all that drives the motor was
delivered, and a line to the right motor of a drive train only when the
call of the left motor has succeeded. -/
theorem delivered_until_failure {l k : Type} [Link l] [Link k]
    {fails : Nat → Prop} {sound : l → Prop} {sends : l → Nat} {delivered : l → List String}
    (hl : FailsAt l fails sound sends delivered)
    {sound' : k → Prop} {sends' : k → Nat} {delivered' : k → List String}
    (hk : FailsAt k (fun _ => False) sound' sends' delivered')
    {link : l} (hlink : sound link) {calm : k} (hcalm : sound' calm)
    (device : Device) {call : Call} (hcall : call ≠ .collect) :
    let lines := (device.script call).lines
    let after := (stateAfter (device.perform call (device, link))).2
    delivered' (stateAfter (device.perform call (device, calm))).2 = delivered' calm ++ lines
      ∧ (∃ n, StopsAt fails (sends link) lines.length n
        ∧ delivered after = delivered link ++ lines.take n
        ∧ sends after = sends link + min (n + 1) lines.length)
      ∧ (∀ before motor control behind,
          device.asks call = before ++ (motor, control) :: behind →
          control.clampUnit.isZero = false →
          let lead := Script.lines (drivingScript before ++ motor.drive control.clampUnit)
          ((drivingScript before).fault? = none →
              lead ++ (motor.keymap.get? .release).toList <+: lines)
            ∧ (sends link + lead.length < sends after → delivered link ++ lead <+: delivered after))
      ∧ ∀ left right, device.asks call = [left, right] →
          let lead := (left.1.script left.2.clampUnit).lines
          lead <+: lines
            ∧ (sends link + lead.length < sends after →
              ∃ state, Motor.setControl left.2 (left.1, link) = .ok () state) := by
  intro lines after
  obtain ⟨n, hstops, hsent, -⟩ := script_failsAt hl (device.script call) hlink
  obtain ⟨m, hstops', hsent', -⟩ := script_failsAt hk (device.script call) hcalm
  rw [← perform_after device hcall] at hsent hsent'
  refine ⟨?_, ⟨n, hstops, hsent.delivered, hsent.sends⟩, ?_, ?_⟩
  · rw [hsent'.delivered, hstops'.all, List.take_length]
  · intro before motor control behind hasks hmoving lead
    have hscript : device.script call = drivingScript before
        ++ motor.drive control.clampUnit ++ [motor.keymap.request .release]
        ++ drivingScript behind := by
      rw [script_driving (by rw [hasks]; simp), hasks, drivingScript_append, drivingScript_cons,
        script_released _ _ hmoving]
    refine ⟨fun hbefore => ?_, fun htried => ?_⟩
    · show _ <+: (device.script call).lines
      rw [hscript]
      exact lines_released hbefore motor _ _
    · -- If a motor before this one has a fault, the front is all there is.
      have hlead : lead <+: lines := by
        show _ <+: (device.script call).lines
        rw [hscript, List.append_assoc]
        exact lines_front _ _
      rw [hsent.delivered]
      exact (List.prefix_append_right_inj _).2 (hsent.front hlead htried)
  · intro left right hasks lead
    have hscript : device.script call
        = left.1.script left.2.clampUnit ++ right.1.script right.2.clampUnit := by
      rw [script_driving (by rw [hasks]; simp), hasks]
      exact congrArg (left.1.script left.2.clampUnit ++ ·) (List.append_nil _)
    rw [hscript] at hstops hsent
    refine ⟨?_, fun htried => ?_⟩
    · show _ <+: (device.script call).lines
      rw [hscript]
      exact lines_front _ _
    · obtain ⟨between, hmake⟩ := front_succeeds hl hlink hstops hsent htried
      rw [setControl_run, hmake]
      exact ⟨_, rfl⟩

/-- A drive train that is to spin, over a link on which the sixth send
fails: that is the duty of the right motor, whose brake is not released. -/
theorem delivered_until_failure_spin :
    let motor (name : String) : Motor :=
      { keymap := .ofEntries [("BACKWARDS", "MOTOR_BACKWARD " ++ name),
          ("BRAKE", "MOTOR_BRAKE_HOLD " ++ name), ("FORWARDS", "MOTOR_FORWARD " ++ name),
          ("RELEASE", "MOTOR_BRAKE_RELEASE " ++ name), ("SPEED", "MOTOR_SPEED " ++ name)] }
    let train := Device.train ⟨motor "Left", motor "Right"⟩
    let link : Rehearsal := { failing := [6] }
    let after := (stateAfter (train.perform (.clockwise (.ofNat 1)) (train, link))).2
    after.sent = ["MOTOR_SPEED Left", "255", "MOTOR_FORWARD Left", "MOTOR_BRAKE_RELEASE Left",
        "MOTOR_SPEED Right"]
      ∧ after.attempts = 6
      ∧ ∃ state, Motor.forward (.ofNat 1) (motor "Left", link) = .ok () state := by
  intro motor train link after
  have hlines : (train.script (.clockwise (.ofNat 1))).lines
      = ["MOTOR_SPEED Left", "255", "MOTOR_FORWARD Left", "MOTOR_BRAKE_RELEASE Left",
        "MOTOR_SPEED Right", "255", "MOTOR_BACKWARD Right", "MOTOR_BRAKE_RELEASE Right"] := by
    decide +kernel
  obtain ⟨-, ⟨n, hstops, hsent, hattempts⟩, -, hleft⟩ :=
    delivered_until_failure (rehearsal_failsAt [6]) rehearsal_calm
      (show link.failing = [6] from rfl) (show ({} : Rehearsal).failing = [] from rfl) train
      (show Call.clockwise (.ofNat 1) ≠ .collect by decide)
  rw [hlines] at hstops hsent hattempts
  obtain rfl : n = 5 := hstops.unique ⟨by decide, by decide, by decide⟩
  have hasks : ∀ speed, train.asks (.clockwise speed)
      = [(motor "Left", speed.abs), (motor "Right", speed.abs.neg)] := fun _ => rfl
  obtain ⟨-, hdone⟩ := hleft _ _ (hasks (.ofNat 1))
  simp only at hdone
  refine ⟨hsent, hattempts, hdone ?_⟩
  rw [hattempts]
  decide +kernel

end SerialEndpoint
