/-
The statistics of a transport, against the results of its writes and reads.

# Counters

Each counter stands for a kind of result, and every half that is carried out
adds one to the counter of its own result and leaves the others
(`Trial.counted`). The four results have four counters, and the faults of a
follow-up that is refused have none, since nothing is written or read for
them. So after a run each counter is the number of halves that ended in its
way, and the bytes sent and the characters replaced are sums over the frames
that were sent (`stats_agree`).

# Bytes received

The bytes of a line are counted when the line is complete, and until then
they are held. What is kept is therefore a sum: counted and held together
are the bytes that the reads have taken from the stream. A read hands over
all that it takes, either to the line that it delivers or to what is held
(`readLine_length`), and what it takes stands in front of all that is still
to come (`consumed_front`).

With every line its line end is counted as well, as the byte that it is. A
line that the end of the stream has ended has none, and is counted with a
line end all the same. Each such line adds one to the sum (`Trial.unended`),
and nothing else does, so the sum is right exactly if no line was ended in
this way (`received_bytes`).
-/
import Mathlib.Algebra.GroupWithZero.Nat
import SerialEndpoint.Proofs.Link.Sending
import SerialEndpoint.Proofs.Link.Trials

namespace SerialEndpoint

-- ============================================================= counters

/-- The counters of writes and reads, one for each way to end. -/
inductive Counter where
  | sent
  | received
  | error
  | timeout
deriving DecidableEq

/-- The number in a counter. -/
def Stats.count (stats : Stats) : Counter → Nat
  | .sent => stats.messagesSent
  | .received => stats.messagesReceived
  | .error => stats.errors
  | .timeout => stats.timeouts

/-- The counter that a result names; none for the faults of a follow-up that
was refused, which are no results of a write or a read. -/
def Half.counter? : Half → Ending → Option Counter
  | .write _, .ok _ => some .sent
  | .read, .ok _ => some .received
  | _, .error (.stream _) => some .error
  | _, .error .closed => some .error
  | _, .error (.timeout _) => some .timeout
  | _, .error _ => none

variable {π : Type} [Peer π]

namespace Trial

/-- The counter that the result of a trial names. -/
def counter? (trial : Trial π) : Option Counter := trial.half.counter? trial.ending

/-- The frame of a write that succeeded. -/
def sent? (trial : Trial π) : Option Frame :=
  match trial.half, trial.ending with
  | .write message, .ok _ => some (Frame.ofMessage message)
  | _, _ => none

/-- How many bytes a read has taken from the stream. -/
def consumed (trial : Trial π) : Nat :=
  match trial.half with
  | .write _ => 0
  | .read => (bytesIn trial.before.inbox).length - (bytesIn trial.after.inbox).length

/-- True of a read that delivered a line without its line end, at the end of
the stream. -/
def unended (trial : Trial π) : Bool :=
  match trial.half, trial.ending with
  | .read, .ok _ => (readLine trial.before.begun trial.before.inbox).outcome == .theEnd
  | _, _ => false

end Trial

/-- What a trial adds to the counters: one to the counter that its result
names, and nothing to the others. -/
theorem Trial.counted (trial : Trial π) :
    ∃ counter, trial.counter? = some counter ∧ ∀ other,
      trial.after.stats.count other
        = trial.before.stats.count other + if counter = other then 1 else 0 := by
  have hdoes := trial.does
  unfold Trial.counter?
  generalize trial.half = half, trial.ending = ending, trial.after = after at hdoes ⊢
  cases hdoes with
  | sent hbegun hstats =>
      refine ⟨.sent, rfl, fun other => ?_⟩
      rw [hstats]
      cases other <;> rfl
  | cut reason hbegun hstats =>
      rw [hstats]
      cases reason with
      | failed fault => exact ⟨.error, rfl, fun other => by cases other <;> rfl⟩
      | blocked => exact ⟨.timeout, rfl, fun other => by cases other <;> rfl⟩
  | line hread => exact ⟨.received, rfl, fun other => by cases other <;> rfl⟩
  | last hread hsome => exact ⟨.received, rfl, fun other => by cases other <;> rfl⟩
  | closed hread => exact ⟨.error, rfl, fun other => by cases other <;> rfl⟩
  | failed hread => exact ⟨.error, rfl, fun other => by cases other <;> rfl⟩
  | waited hread => exact ⟨.timeout, rfl, fun other => by cases other <;> rfl⟩

/-- A counter goes up by the trials whose results name it. -/
theorem tallies_counter (counter : Counter) :
    Tallies (π := π) (fun link => link.stats.count counter)
      (List.countP fun trial => trial.counter? = some counter) where
  append trials more := List.countP_append
  each trial := by
    obtain ⟨named, hnamed, hcounted⟩ := trial.counted
    simp only [hcounted, List.countP_singleton, hnamed, Option.some_inj, decide_eq_true_eq]

/-- The frames that some writes sent, and what they come to in bytes or in
replaced characters. -/
theorem tallies_frames (number : Stats → Nat) (size : Frame → Nat)
    (hsent : ∀ stats frame, number (stats.sent frame) = number stats + size frame)
    (hreceived : ∀ stats line, number (stats.received line) = number stats)
    (hfailed : ∀ stats, number stats.failed = number stats)
    (htimedOut : ∀ stats, number stats.timedOut = number stats) :
    Tallies (π := π) (fun link => number link.stats)
      (fun trials => ((trials.filterMap Trial.sent?).map size).sum) where
  append trials more := by rw [List.filterMap_append, List.map_append, List.sum_append]
  each trial := by
    have hdoes := trial.does
    simp only [List.filterMap_cons, List.filterMap_nil]
    unfold Trial.sent?
    generalize trial.half = half, trial.ending = ending, trial.after = after at hdoes ⊢
    cases hdoes with
    | sent hbegun hstats =>
        rw [hstats, hsent]
        simp
    | cut reason hbegun hstats =>
        rw [hstats]
        cases reason with
        | failed fault => exact hfailed _
        | blocked => exact htimedOut _
    | line hread => exact hreceived _ _
    | last hread hsome => exact hreceived _ _
    | closed hread => exact hfailed _
    | failed hread => exact hfailed _
    | waited hread => exact htimedOut _

-- ================================================================ bytes

/-- Reading takes bytes from the front. -/
theorem readLine_suffix (begun : List UInt8) (inbox : List Arrival) :
    bytesIn (readLine begun inbox).inbox <:+ bytesIn inbox := by
  induction inbox generalizing begun with
  | nil => exact List.suffix_rfl
  | cons arrival rest ih =>
      cases arrival with
      | silence => exact List.suffix_append _ _
      | theEnd => exact List.suffix_rfl
      | failure fault =>
          rw [readLine]
          split
          · exact (ih begun).trans (List.suffix_append _ _)
          · exact List.suffix_append _ _
      | chunk bytes =>
          rw [bytesIn_cons]
          cases bytes with
          | nil => exact List.suffix_rfl
          | cons byte bytes =>
              rw [readLine]
              split
              · exact (ih _).trans (List.suffix_append _ _)
              · rename_i first more hdrop
                rw [bytesIn_putBack]
                have hback : more <:+ byte :: bytes :=
                  (List.suffix_cons first more).trans (hdrop ▸ List.dropWhile_suffix _)
                obtain ⟨front, hfront⟩ := hback
                exact ⟨front, by rw [← List.append_assoc, hfront]; rfl⟩

/-- What a read delivers and holds is what was held before it and what it
takes. -/
theorem readLine_length (begun : List UInt8) (inbox : List Arrival) :
    (readLine begun inbox).outcome.delivered.length + (readLine begun inbox).begun.length
      = begun.length
        + ((bytesIn inbox).length - (bytesIn (readLine begun inbox).inbox).length) := by
  have hbytes := congrArg List.length (readLine_reads begun inbox).bytes
  have hsuffix := (readLine_suffix begun inbox).length_le
  simp only [List.length_append] at hbytes
  omega

/-- The bytes that a trial has consumed stood in front of the others. -/
theorem consumed_front (trial : Trial π) (hread : trial.half = .read) :
    ∃ front, front.length = trial.consumed
      ∧ front ++ bytesIn trial.after.inbox = bytesIn trial.before.inbox := by
  have hsuffix : bytesIn trial.after.inbox <:+ bytesIn trial.before.inbox := by
    have hback := readLine_suffix trial.before.begun trial.before.inbox
    have hdoes := trial.does
    generalize trial.half = half, trial.ending = ending, trial.after = after at hdoes hread ⊢
    subst hread
    cases hdoes with
    | line hread => rwa [hread] at hback
    | last hread hsome => rwa [hread] at hback
    | closed hread => rwa [hread] at hback
    | failed hread => rwa [hread] at hback
    | waited hread => rwa [hread] at hback
  obtain ⟨front, hfront⟩ := hsuffix
  refine ⟨front, ?_, hfront⟩
  unfold Trial.consumed
  rw [hread, ← hfront, List.length_append]
  exact (Nat.add_sub_cancel ..).symm

/-- The bytes counted and the bytes held go up by what the reads take from
the stream, and by one more for each line that came without its end. -/
theorem tallies_received :
    Tallies (π := π) (fun link => link.stats.bytesReceived + link.begun.length)
      (fun trials => (trials.map Trial.consumed).sum + trials.countP Trial.unended) where
  append trials more := by
    rw [List.map_append, List.sum_append, List.countP_append]
    omega
  each trial := by
    have hdoes := trial.does
    have hlength := readLine_length trial.before.begun trial.before.inbox
    simp only [List.map_singleton, List.sum_singleton, List.countP_singleton]
    unfold Trial.consumed Trial.unended
    generalize trial.half = half, trial.ending = ending, trial.after = after at hdoes ⊢
    cases hdoes with
    | sent hbegun hstats =>
        rw [hbegun, hstats]
        rfl
    | cut reason hbegun hstats =>
        rw [hbegun, hstats]
        cases reason <;> rfl
    | line hread =>
        rw [hread] at hlength ⊢
        simp [LineRead.delivered, withEnd, Stats.received] at hlength ⊢
        omega
    | last hread hsome =>
        rw [hread] at hlength ⊢
        simp [LineRead.delivered, Stats.received] at hlength ⊢
        omega
    | closed hread =>
        rw [hread] at hlength
        simp [LineRead.delivered, Stats.failed] at hlength ⊢
        omega
    | failed hread =>
        rw [hread] at hlength
        simp [LineRead.delivered, Stats.failed] at hlength ⊢
        omega
    | waited hread =>
        rw [hread] at hlength
        simp [LineRead.delivered, Stats.timedOut] at hlength ⊢
        omega

-- ============================================================== results

/-- After any operations since a link was made, or since its statistics were
restarted, each counter is the number of writes and reads that ended in its
way, and the bytes sent and the characters replaced are those of the frames
that were sent. An operation that is refused leaves everything as it was. -/
theorem stats_agree {link : Transport π} (hfresh : link.stats = {}) (exchanges : List Exchange) :
    let run := callEach exchanges link
    let trials := trialsIn exchanges link
    let frames := trials.filterMap Trial.sent?
    -- the trials are the halves of the operations
    run.1 = (visits exchanges link).map (fun visit => match visit.exchange.halves with
        | .ok _ => joined (visit.trials.map Trial.ending)
        | .error fault => .error fault)
      -- each adds one to the counter of its result, and nothing to the others
      ∧ (∀ trial ∈ trials, ∃ counter, trial.counter? = some counter ∧ ∀ other,
          trial.after.stats.count other
            = trial.before.stats.count other + if counter = other then 1 else 0)
      ∧ (∀ counter, run.2.stats.count counter
          = trials.countP fun trial => trial.counter? = some counter)
      ∧ run.2.stats.bytesSent = (frames.map fun frame => frame.bytes.length).sum
      ∧ run.2.stats.replaced = (frames.map Frame.replaced).sum
      -- operations that are refused
      ∧ ∀ message name argument fault, FollowUp.named name argument = .error fault →
          ∀ found : Transport π,
            (Exchange.sendThenNamed message name argument).perform found = .error fault found
              ∧ Visit.trials ⟨.sendThenNamed message name argument, found⟩ = [] := by
  intro run trials frames
  refine ⟨?_, fun trial _ => trial.counted, ?_, ?_, ?_, ?_⟩
  · rw [show run.1 = _ from callEach_endings exchanges link]
    exact List.map_congr_left fun visit _ => ending_eq visit
  · intro counter
    have hcount := (tallies_counter counter).callEach exchanges link
    rw [hfresh] at hcount
    rw [show run.2.stats.count counter = _ from hcount]
    cases counter <;> exact Nat.zero_add _
  · have hbytes := (tallies_frames Stats.bytesSent (fun frame => frame.bytes.length)
      (fun _ _ => rfl) (fun _ _ => rfl) (fun _ => rfl) (fun _ => rfl)).callEach exchanges link
    rw [hfresh] at hbytes
    exact hbytes.trans (Nat.zero_add _)
  · have hreplaced := (tallies_frames Stats.replaced Frame.replaced
      (fun _ _ => rfl) (fun _ _ => rfl) (fun _ => rfl) (fun _ => rfl)).callEach exchanges link
    rw [hfresh] at hreplaced
    exact hreplaced.trans (Nat.zero_add _)
  · intro message name argument fault hrefused found
    have hhalves : (Exchange.sendThenNamed message name argument).halves = .error fault := by
      rw [Exchange.halves, hrefused]
      rfl
    constructor
    · rw [perform_eq, hhalves]
    · rw [Visit.trials, hhalves]

/-- A reply, a frame with a replaced character, a frame that is cut, so that
the one behind it is not tried, a name that means nothing, a failure, and
the end of the stream. -/
theorem stats_agree_unplugged :
    let link : Transport Rationed := {
      peer := ⟨[.whole, .cut 5 .blocked, .cut 0 (.failed ⟨.brokenPipe, "unplugged"⟩)]⟩
      limit := ⟨1000⟩
      inbox := [.chunk [0x31, 0x32, 0x0A], .theEnd] }
    let exchanges : List Exchange := [.receiveThen (.send "caf\u00e9"),
      .sendThen "MOTOR_SPEED M1" (.send "200"), .sendThenNamed "MOTOR_SPEED M1" "JUMP" none,
      .send "MOTOR_BRAKE_HOLD M1", .receive]
    let stats := (callEach exchanges link).2.stats
    link.stats = {}
      ∧ (trialsIn exchanges link).map Trial.counter?
        = [some .received, some .sent, some .timeout, some .error, some .error]
      ∧ stats.count .error = 2 ∧ stats.bytesSent = 5 ∧ stats.replaced = 1 := by
  intro link exchanges stats
  have hfresh : link.stats = {} := rfl
  obtain ⟨-, -, hcount, hbytes, hreplaced, -⟩ := stats_agree hfresh exchanges
  refine ⟨hfresh, by decide +kernel, (hcount .error).trans ?_, hbytes.trans ?_, hreplaced.trans ?_⟩
  · decide +kernel
  · decide +kernel
  · decide +kernel

/-- After any operations since a link was made, or since its statistics were
restarted, the bytes counted and the bytes of the line that is begun are
those that were held at the start and those that the reads have taken from
the stream, and one more for each line that came without its end. -/
theorem received_bytes {link : Transport π} (hfresh : link.stats = {})
    (exchanges : List Exchange) :
    let after := (callEach exchanges link).2
    let trials := trialsIn exchanges link
    let counted := after.stats.bytesReceived + after.begun.length
    -- nothing was held at the start if the link is new
    let taken := link.begun.length + (trials.map Trial.consumed).sum
    counted = taken + trials.countP Trial.unended
      ∧ (counted = taken ↔ ∀ trial ∈ trials, trial.unended = false)
      ∧ ∀ trial ∈ trials, trial.half = .read → ∃ front, front.length = trial.consumed
        ∧ front ++ bytesIn trial.after.inbox = bytesIn trial.before.inbox := by
  intro after trials counted taken
  have hcounted : counted = taken + trials.countP Trial.unended := by
    have htally := tallies_received.callEach exchanges link
    rw [hfresh] at htally
    calc counted
        = 0 + link.begun.length
          + ((trials.map Trial.consumed).sum + trials.countP Trial.unended) := htally
      _ = link.begun.length + (trials.map Trial.consumed).sum + trials.countP Trial.unended := by
        omega
  refine ⟨hcounted, ?_, fun trial _ hread => consumed_front trial hread⟩
  rw [hcounted, Nat.add_eq_left, List.countP_eq_zero]
  exact forall₂_congr fun trial _ => iff_of_eq (Bool.not_eq_true _)

/-- A line is cut by a wait in vain, and the next one by a failure; both
come with their ends. -/
theorem received_bytes_in_pieces :
    let link : Transport Outlet := { peer := {}, limit := ⟨1000⟩, inbox := [.chunk [0x31],
      .silence, .chunk [0x32, 0x0A, 0x33], .failure ⟨.brokenPipe, "unplugged"⟩] }
    let after := (callEach [.receive, .receive, .receive] link).2
    link.stats = {} ∧ after.begun = [0x33]
      ∧ after.stats.bytesReceived + after.begun.length = 4 := by
  intro link after
  have hfresh : link.stats = {} := rfl
  have hcounted := (received_bytes hfresh [.receive, .receive, .receive]).1
  refine ⟨hfresh, by decide +kernel, hcounted.trans ?_⟩
  decide +kernel

/-- The end of the stream ends a line of two bytes, and three are
counted. -/
theorem last_line_counts_one_more :
    let link : Transport Outlet :=
      { peer := {}, limit := ⟨1000⟩, inbox := [.chunk [0x31, 0x32], .theEnd] }
    let run := callEach [.receive] link
    run.1 = [.ok ["12"]] ∧ (bytesIn link.inbox).length = 2 ∧ bytesIn run.2.inbox = []
      ∧ ((trialsIn [.receive] link).map Trial.consumed).sum = 2
      ∧ run.2.stats.bytesReceived + run.2.begun.length = 3 := by
  decide +kernel

end SerialEndpoint
