/-
Calls for which the keymap has no line. A call looks its lines up one after
the other, each right before it is sent, so a line that is missing is found
only when those before it have been sent.

# What was sent

A link that keeps a log shows what was sent to it (`Logs`). If a call fails
for a line that is missing, no send has failed, so all lines of its script
before that one are in the log and nothing else (`perform_missing`). The call
of a sensor has no script: it is one request with its reply, and what fails
for a missing line has not got as far as the request (`collect_missing`).
Reading a reply never fails in this way.

# Which calls are late

For most calls there are no lines before the missing one. The script of a
switch has one line, and so has that of a motor that is to stand still. A
motor that is driven, though, is told its duty and its direction as far as
its keymap knows them, and only then asks for the release of its brake
(`motor_missing`). Without that line the call fails when the motor has been
driven, unless the keymap knows neither a duty nor a direction. This is the
only case (`script_missing`), and the key that is named then is always that
of the release (`missing_key_late_iff`).
-/
import SerialEndpoint.Proofs.Device.Failing

namespace SerialEndpoint

-- =============================================================== links

/-- Why a step failed, if it did. -/
def faultOf {ε σ α : Type} : EStateM.Result ε σ α → Option ε
  | .ok _ _ => none
  | .error fault _ => some fault

/-- A kind of link that keeps a log of what is sent: every message that is
sent is in it, in a certain form, and none comes to nothing. -/
structure Logs (l : Type) [Link l] {α : Type} (log : l → List α) (form : String → List α) :
    Prop where
  pairs : SendsPairs l
  form_ne_nil (message : String) : form message ≠ []
  send {message : String} {link after : l} (h : Link.send message link = .ok () after) :
    log after = log link ++ form message

/-- A rehearsal keeps the messages. -/
theorem rehearsal_logs : Logs Rehearsal Rehearsal.sent (fun message => [message]) where
  pairs _ _ := rfl
  form_ne_nil _ := List.cons_ne_nil _ _
  send {message link after} h := by
    have hsend : Rehearsal.send message link = .ok () after := h
    rw [Rehearsal.send_run] at hsend
    simp only at hsend
    split at hsend
    · cases hsend
    · cases hsend
      rfl

/-- A transport keeps the frames. -/
theorem transport_logs {π : Type} [Peer π] :
    Logs (Transport π) Transport.written (fun message => (Frame.ofMessage message).bytes) where
  pairs := transport_sendsPairs
  form_ne_nil message := by
    rw [Frame.bytes_ofMessage]
    exact List.append_ne_nil_of_right_ne_nil _ (List.cons_ne_nil _ _)
  send {message link after} h := by
    obtain ⟨taken, -, hwritten, hwhole⟩ := Transport.writes_send message link
    rw [show Transport.send message link = _ from h] at hwritten
    rw [hwhole () after h] at hwritten
    exact hwritten

section Calls

variable {l : Type} [Link l]

theorem sendAll_logged {α : Type} {log : l → List α} {form : String → List α}
    (hl : Logs l log form) (lines : List String) :
    ∀ {link after : l}, sendAll lines link = .ok () after →
      log after = log link ++ lines.flatMap form := by
  induction lines with
  | nil =>
      intro link after h
      cases h
      exact (List.append_nil _).symm
  | cons line rest ih =>
      intro link after h
      rw [sendAll_cons_run] at h
      cases hsend : Link.send line link with
      | error fault between =>
          rw [hsend] at h
          cases h
      | ok done between =>
          rw [hsend] at h
          rw [ih h, hl.send hsend, List.flatMap_cons, List.append_assoc]

-- =============================================================== calls

/-- If a script fails for a line that is missing, all lines before it have
been sent. -/
theorem make_missing (hpairs : SendsPairs l) {script : Script} {link : l} {key : String}
    (h : faultOf (script.make link) = some (.missingKey key)) :
    script.fault? = some (.missingKey key)
      ∧ sendAll script.lines link = .ok () (stateAfter (script.make link)) := by
  rw [make_eq_sendAll hpairs] at h ⊢
  cases hsent : sendAll script.lines link with
  | error fault after =>
      rw [hsent] at h
      cases h
  | ok done after =>
      rw [hsent] at h
      simp only at h ⊢
      cases hfault : script.fault? with
      | none =>
          rw [hfault] at h
          cases h
      | some fault =>
          rw [hfault] at h
          exact ⟨h, rfl⟩

/-- A sensor whose line is missing has sent nothing. -/
theorem collect_missing {keymap : Keymap} {link : l} {key : String}
    (h : faultOf (keymap.collect link) = some (.missingKey key)) :
    stateAfter (keymap.collect link) = link := by
  unfold Keymap.collect at h ⊢
  cases hline : keymap.line .collect with
  | error fault => rfl
  | ok line =>
      rw [hline] at h
      simp only [bind_run] at h
      unfold OnLink.toDevice at h
      cases hsend : Link.sendThen line .receive link with
      | error fault after =>
          rw [hsend] at h
          cases h
      | ok reply after =>
          rw [hsend] at h
          cases reply <;> cases h

/-- If no reply is read as a missing line, a call that fails for one has
not got as far as a reply. -/
theorem reading_missing {α : Type} {keymap : Keymap} {reading : String → OnDevice l α} {link : l}
    {key : String}
    (hreading : ∀ reply after, faultOf (reading reply after) ≠ some (.missingKey key))
    (h : faultOf ((keymap.collect >>= reading) link) = some (.missingKey key)) :
    stateAfter ((keymap.collect >>= reading) link) = link := by
  rw [bind_run] at h ⊢
  cases hcollect : keymap.collect link with
  | error fault after =>
      rw [hcollect] at h
      have hmissing : faultOf (keymap.collect link) = some (.missingKey key) := by
        rw [hcollect]
        exact h
      have hsame := collect_missing hmissing
      rw [hcollect] at hsame
      exact hsame
  | ok reply after =>
      rw [hcollect] at h
      exact absurd h (hreading reply after)

theorem voltage_missing {sensor : VoltageSensor} {link : l} {key : String}
    (h : faultOf (sensor.collect link) = some (.missingKey key)) :
    stateAfter (sensor.collect link) = link := by
  unfold VoltageSensor.collect at h ⊢
  refine reading_missing (fun reply after => ?_) h
  unfold VoltageSensor.read
  cases Binary64.ofText? (trimBlank reply) <;> exact nofun

theorem distance_missing {sensor : DistanceSensor} {link : l} {key : String}
    (h : faultOf (sensor.collect link) = some (.missingKey key)) :
    stateAfter (sensor.collect link) = link := by
  unfold DistanceSensor.collect at h ⊢
  refine reading_missing (fun reply after => ?_) h
  unfold DistanceSensor.read
  simp only
  by_cases htoken : trimBlank reply = sensor.timeoutToken
  · rw [if_pos htoken]
    exact nofun
  · rw [if_neg htoken]
    cases readNatBelow? (Nat.pow 2 32) (trimBlank reply).toList <;> exact nofun

omit [Link l] in
/-- A call of a sensor that fails for a line that is missing has not
touched the link. -/
theorem beside_missing {α : Type} {device : Device} {result : α → CallResult}
    (step : OnDevice l α) {link : l} {key : String}
    (hstep : faultOf (step link) = some (.missingKey key) → stateAfter (step link) = link)
    (h : faultOf (OnDevice.beside result step (device, link)) = some (.missingKey key)) :
    (stateAfter (OnDevice.beside result step (device, link))).2 = link := by
  unfold OnDevice.beside at h ⊢
  simp only at h ⊢
  cases hrun : step link with
  | ok value after =>
      rw [hrun] at h
      cases h
  | error fault after =>
      rw [hrun] at h hstep
      exact hstep h

/-- A call for a reading has no script: it is one request with its reply. -/
theorem script_collect (device : Device) : device.script .collect = [] := by
  cases device <;> rfl

/-- If a call fails for a line that is missing, the lines before it have been
sent, and nothing else has happened to the link. -/
theorem perform_missing (hpairs : SendsPairs l) {device : Device} {call : Call} {link : l}
    {key : String}
    (h : faultOf (device.perform call (device, link)) = some (.missingKey key)) :
    sendAll (device.script call).lines link
        = .ok () (stateAfter (device.perform call (device, link))).2
      ∧ (call ≠ .collect → (device.script call).fault? = some (.missingKey key)) := by
  -- a collection is no script, and looks its key up before anything is sent
  by_cases hcall : call = .collect
  · subst hcall
    refine ⟨?_, fun hother => absurd rfl hother⟩
    have hsame : (stateAfter (device.perform .collect (device, link))).2 = link := by
      cases device with
      | voltage sensor =>
          exact beside_missing sensor.collect voltage_missing h
      | distance sensor =>
          exact beside_missing sensor.collect distance_missing h
      | motor motor => rfl
      | train train => rfl
      | switch switch => rfl
    rw [hsame, script_collect]
    rfl
  · obtain ⟨device', hperform⟩ := perform_script device hcall link
    have hmake : faultOf ((device.script call).make link) = some (.missingKey key) := by
      rw [hperform] at h
      cases hrun : (device.script call).make link with
      | ok done after =>
          rw [hrun] at h
          cases h
      | error fault after =>
          rw [hrun] at h
          exact h
    obtain ⟨hfault, hsent⟩ := make_missing hpairs hmake
    rw [perform_after device hcall]
    exact ⟨hsent, fun _ => hfault⟩

end Calls

-- ============================================================== motors

/-- True of a call that drives a motor, duty or direction, though its keymap
has no line for the release of the brake. -/
def Device.DrivesUnreleased (device : Device) (call : Call) : Prop :=
  ∃ motor control, device = .motor motor ∧ call.control? = some control
    ∧ control.clampUnit.isZero = false ∧ motor.keymap.get? .release = none
    ∧ ((motor.keymap.get? .speed).isSome ∨ (motor.keymap.get? .forwards).isSome)

theorem drivesUnreleased_motor {motor : Motor} {call : Call} {control : Binary64}
    (h : call.control? = some control) :
    (Device.motor motor).DrivesUnreleased call
      ↔ control.clampUnit.isZero = false ∧ motor.keymap.get? .release = none
        ∧ ((motor.keymap.get? .speed).isSome ∨ (motor.keymap.get? .forwards).isSome) := by
  constructor
  · rintro ⟨motor', control', hmotor, hcontrol, hdrives⟩
    cases hmotor
    cases h.symm.trans hcontrol
    exact hdrives
  · intro hdrives
    exact ⟨motor, control, rfl, h, hdrives⟩

/-- A motor is driven by no line exactly if it has neither a duty nor a
direction. -/
theorem drive_lines_eq_nil (motor : Motor) (control : Binary64) :
    (motor.drive control).lines = []
      ↔ motor.keymap.get? .speed = none ∧ motor.keymap.get? .forwards = none := by
  unfold Motor.drive
  rcases speedScript_cases motor control with ⟨hnone, hspeed⟩ | ⟨hsome, line, hspeed⟩
  · rw [hspeed, List.nil_append, hnone, eq_self, true_and]
    rcases directionScript_cases motor control with ⟨hnone, hturn⟩ | ⟨hsome, line, hturn⟩
    · rw [hturn, hnone]
      exact iff_of_true rfl rfl
    · rw [hturn]
      exact iff_of_false nofun (Option.isSome_iff_ne_none.1 hsome)
  · rw [hspeed]
    exact iff_of_false nofun fun hnone => Option.isSome_iff_ne_none.1 hsome hnone.1

/-- A request without a line is a fault, and names the key. -/
theorem request_fault {keymap : Keymap} {operation : Operation} {key : String}
    (h : Script.fault? [keymap.request operation] = some (.missingKey key)) :
    keymap.get? operation = none ∧ key = operation.key
      ∧ Script.lines [keymap.request operation] = [] := by
  unfold Keymap.request Keymap.line at h ⊢
  cases hline : keymap.get? operation with
  | some line =>
      rw [hline] at h
      cases h
  | none =>
      rw [hline] at h
      cases h
      exact ⟨rfl, rfl, rfl⟩

/-- Of a motor that lacks a line, none is sent exactly if the lines it has
do not drive it: for zero it is the brake that is missing, and otherwise
the release behind all the others. -/
theorem motor_missing {motor : Motor} {control : Binary64} {key : String}
    (h : (motor.script control).fault? = some (.missingKey key)) :
    if control.isZero then (motor.script control).lines = []
    else motor.keymap.get? .release = none ∧ key = Operation.release.key
      ∧ ((motor.script control).lines = []
        ↔ motor.keymap.get? .speed = none ∧ motor.keymap.get? .forwards = none) := by
  cases hzero : control.isZero with
  | true =>
      rw [if_pos rfl]
      unfold Motor.script at h ⊢
      rw [if_pos hzero] at h ⊢
      exact (request_fault h).2.2
  | false =>
      rw [if_neg Bool.false_ne_true]
      rw [script_moving hzero] at h ⊢
      rw [fault_append _ _ (drive_fault motor control)] at h
      obtain ⟨hrelease, hkey, hnone⟩ := request_fault h
      refine ⟨hrelease, hkey, ?_⟩
      rw [lines_append, if_pos (drive_fault motor control), hnone, List.append_nil,
        drive_lines_eq_nil]

/-- A call that drives one motor or switch and lacks a line has no line
before it, unless it drives a motor that cannot be released. -/
theorem script_missing {device : Device} (hsingle : ∀ train, device ≠ .train train) {call : Call}
    {key : String} (h : (device.script call).fault? = some (.missingKey key)) :
    ((device.script call).lines = [] ↔ ¬ device.DrivesUnreleased call)
      ∧ (device.DrivesUnreleased call → key = Operation.release.key) := by
  cases device with
  | motor motor =>
      rw [script_motor] at h ⊢
      cases hcontrol : call.control? with
      | none =>
          rw [hcontrol] at h
          cases h
      | some control =>
          rw [hcontrol] at h
          rw [drivesUnreleased_motor hcontrol]
          have hlines := motor_missing h
          -- for zero there is only the brake; else the release is looked up last
          cases hzero : control.clampUnit.isZero with
          | true =>
              rw [if_pos hzero] at hlines
              exact ⟨iff_of_true hlines (fun hdrives => nomatch hdrives.1),
                fun hdrives => nomatch hdrives.1⟩
          | false =>
              rw [if_neg (by rw [hzero]; exact Bool.false_ne_true)] at hlines
              obtain ⟨hrelease, hkey, hnone⟩ := hlines
              refine ⟨?_, fun _ => hkey⟩
              show (motor.script control.clampUnit).lines = [] ↔ _
              rw [hnone, hrelease]
              simp
  | train train => exact absurd rfl (hsingle train)
  | switch switch =>
      have hother : ¬ (Device.switch switch).DrivesUnreleased call := by
        rintro ⟨_, _, hmotor, -⟩
        cases hmotor
      refine ⟨iff_of_true ?_ hother, fun hdrives => absurd hdrives hother⟩
      cases call with
      | openContact => exact (request_fault h).2.2
      | closeContact => exact (request_fault h).2.2
      | _ => cases h
  | voltage sensor => cases call <;> cases h
  | distance sensor => cases call <;> cases h

-- ========================================================= the theorem

/-- If a call of a motor, a switch or a sensor fails for a line that is
missing, it has sent the lines before that one. These are none, and the link
is as it was, unless the call drives a motor whose brake cannot be
released: that is found out only when the motor has been driven. -/
theorem missing_key_late_iff {l : Type} [Link l] {α : Type} {log : l → List α}
    {form : String → List α} (hl : Logs l log form)
    {device : Device} (hsingle : ∀ train, device ≠ .train train) {call : Call} {link : l}
    {key : String}
    (hmissing : faultOf (device.perform call (device, link)) = some (.missingKey key)) :
    let after := (stateAfter (device.perform call (device, link))).2
    log after = log link ++ (device.script call).lines.flatMap form
      ∧ (log after = log link ↔ ¬ device.DrivesUnreleased call)
      ∧ (log after = log link → after = link)
      ∧ (device.DrivesUnreleased call → key = Operation.release.key) := by
  intro after
  obtain ⟨hsent, hfault⟩ := perform_missing hl.pairs hmissing
  have hlog := sendAll_logged hl _ hsent
  have hsame : log after = log link ↔ (device.script call).lines = [] := by
    rw [hlog, List.append_right_eq_self, List.flatMap_eq_nil_iff]
    constructor
    · intro hnone
      refine List.eq_nil_iff_forall_not_mem.2 fun line hline => ?_
      exact hl.form_ne_nil line (hnone line hline)
    · intro hnone line hline
      rw [hnone] at hline
      cases hline
  obtain ⟨hlate, hkey⟩ : ((device.script call).lines = [] ↔ ¬ device.DrivesUnreleased call)
      ∧ (device.DrivesUnreleased call → key = Operation.release.key) := by
    by_cases hcall : call = .collect
    · subst hcall
      have hother : ¬ device.DrivesUnreleased .collect := by
        rintro ⟨_, _, -, hcontrol, -⟩
        cases hcontrol
      exact ⟨iff_of_true (congrArg Script.lines (script_collect device)) hother,
        fun hdrives => absurd hdrives hother⟩
    · exact script_missing hsingle (hfault hcall)
  refine ⟨hlog, hsame.trans hlate, fun h => ?_, hkey⟩
  rw [hsame.1 h] at hsent
  exact (EStateM.Result.ok.inj hsent).2.symm

/-- A motor with a line for backwards but none for forwards, and none for
the release of its brake: told to run, it fails with nothing sent, on a
rehearsal as on a transport. -/
theorem missing_key_late_iff_backwards :
    let motor : Motor :=
      { keymap := .ofEntries [("BACKWARDS", "MOTOR_BACKWARD M1"),
          ("BRAKE", "MOTOR_BRAKE_HOLD M1")] }
    let run {l : Type} [Link l] (link : l) :=
      Device.perform (.motor motor) (.setControl (.ofNat 1)) (.motor motor, link)
    let port : Transport Outlet := { peer := {}, limit := ⟨1000⟩ }
    faultOf (run ({} : Rehearsal)) = some (.missingKey "RELEASE")
      ∧ (stateAfter (run ({} : Rehearsal))).2 = {}
      ∧ faultOf (run port) = some (.missingKey "RELEASE")
      ∧ (stateAfter (run port)).2 = port := by
  intro motor run port
  have hsingle : ∀ train, Device.motor motor ≠ .train train := nofun
  have hreleased : ¬ (Device.motor motor).DrivesUnreleased (.setControl (.ofNat 1)) := by
    rw [drivesUnreleased_motor rfl]
    decide +kernel
  have hdry : faultOf (run ({} : Rehearsal)) = some (.missingKey "RELEASE") := by decide +kernel
  have hport : faultOf (run port) = some (.missingKey "RELEASE") := by decide +kernel
  obtain ⟨-, hsame, hlink, -⟩ := missing_key_late_iff rehearsal_logs hsingle hdry
  obtain ⟨-, hsame', hlink', -⟩ := missing_key_late_iff transport_logs hsingle hport
  exact ⟨hdry, hlink (hsame.2 hreleased), hport, hlink' (hsame'.2 hreleased)⟩

/-- A motor with all its lines but the one for the release of its brake:
told to run, it is sent duty and direction before the call fails. -/
theorem driven_before_missing_key :
    let motor : Motor :=
      { keymap := .ofEntries [("BACKWARDS", "MOTOR_BACKWARD M1"), ("BRAKE", "MOTOR_BRAKE_HOLD M1"),
          ("FORWARDS", "MOTOR_FORWARD M1"), ("SPEED", "MOTOR_SPEED M1")] }
    let run := Device.perform (.motor motor) (.setControl (.ofNat 1))
      (.motor motor, ({} : Rehearsal))
    faultOf run = some (.missingKey "RELEASE")
      ∧ (stateAfter run).2.sent = ["MOTOR_SPEED M1", "255", "MOTOR_FORWARD M1"] := by
  decide +kernel

end SerialEndpoint
