/-
Exchanges are atomic on the stream (`exchanges_atomic`). What clients who
share a transport write is the turns' bytes one after the other, and each
turn that ends gives the lock back (`steps_orderly`, `step_frees`). To a
board at the far end an exchange that is issued at rest is a request by
itself, answered to the client that made it.

# Who hears the reply

A client that asks has the lock until it has read a line, so within its turn
nobody else can take the reply. `Hearing` follows the turn through its
phases: what was written and what is left make up the request, and what is on
its way is the reply or nothing. Each step is seen from the turn
(`step_within`) and keeps to it: bytes go from what is left to what was
written, the board's moves carry the reply on its way (`Asked.moves`), and the
line that is read is the reply (`Asked.receive`). When the turn is released,
what was heard is recorded with it, and no later step changes that. So
`steps_hearing` has two cases, a turn that goes on as it should and a turn
that has heard its reply, and the second is never left.

# Which motor a duty is for

The two lines of such an exchange stand next to each other on the stream,
because the bytes of a turn do (`Carried.written`). A board goes by what was
written (`steps_fed`), and behind all before the exchange it is at rest. So
at the end of the second line it waits for the motor of the first
(`duty_taken`).

# What has to be assumed

The lock is given back between two exchanges whatever state the board is in,
so an exchange can be issued while a motor waits or while a reply is still on
its way. Then it is no request by itself. `Shared.Idle` and `Shared.AllRead`
rule these out, each with its counterexample in which no operation fails
(`idle_position_needed`).
-/
import SerialEndpoint.Proofs.Link.Asking

namespace SerialEndpoint

-- ============================================================== hearing

/-- A turn in which a client sends a message and hears the reply: what was
written and what is left make up the request, and what is on its way is
the reply or nothing. -/
inductive Hearing (number : Nat) (message : String) (request : List UInt8)
    (command : Command) : Transport Remote → Phase → Prop where
  | start {link : Transport Remote}
      (hwritten : link.written ++ (Frame.ofMessage message).bytes = request ++ [lineEnd])
      (hasked : Asked request command link.peer link.begun link.inbox) :
      Hearing number message request command link (.turning number [] [.write message, .read])
  | writing {link : Transport Remote} {left : List UInt8}
      (hwritten : link.written ++ left = request ++ [lineEnd])
      (hasked : Asked request command link.peer link.begun link.inbox) :
      Hearing number message request command link (.writing number [] message left [.read])
  | reading {link : Transport Remote} (hwritten : link.written = request ++ [lineEnd])
      (hasked : Asked request command link.peer link.begun link.inbox) :
      Hearing number message request command link (.turning number [] [.read])
  | heard {link : Transport Remote} {b : Board} {text : String}
      (hseen : link.peer.seen[request.length]? = some b) (hanswers : b.Answers command text) :
      Hearing number message request command link (.turning number [text] [])
  | failing {link : Transport Remote} {fault : LinkFault} :
      Hearing number message request command link (.failing number fault)

section Hearing

variable {circuit : Circuit} {number : Nat} {message : String} {request : List UInt8}
  {command : Command}

theorem Hearing.in_turn {link : Transport Remote} {phase : Phase}
    (h : Hearing number message request command link phase) : phase.number? = some number := by
  cases h <;> rfl

variable (hanswers : ∀ b : Board, b.core = (circuit.start.feedAll request).core →
  ∃ text, IsPlain text.toList ∧ b.Answers command text)

include hanswers in
/-- Every step within the turn keeps to it. -/
theorem Hearing.within {link link' : Transport Remote} {phase phase' : Phase}
    (h : Hearing number message request command link phase)
    (hfed : Fed circuit link.written link.peer)
    (hwithin : Within Remote.Moves number link phase link' phase') :
    Hearing number message request command link' phase' := by
  cases h with
  | start hwritten hasked =>
      cases hwithin with
      | elsewhere => exact .start hwritten hasked
      | begin => exact .writing hwritten hasked
      | fails => exact .failing
      | world hmove => exact .start hwritten (hasked.moves hfed ⟨_, hwritten⟩ hanswers hmove)
  | writing hwritten hasked =>
      cases hwithin with
      | elsewhere => exact .writing hwritten hasked
      | take => exact .writing ((List.append_assoc ..).trans hwritten) hasked
      | flush => exact .reading ((List.append_nil _).symm.trans hwritten) hasked
      | fails => exact .failing
      | world hmove => exact .writing hwritten (hasked.moves hfed ⟨_, hwritten⟩ hanswers hmove)
  | reading hwritten hasked =>
      cases hwithin with
      | elsewhere => exact .reading hwritten hasked
      | read hread =>
          obtain ⟨b, hseen, hanswer⟩ := hasked.receive hread
          have hkeeps := (Transport.receive_keeps link).1
          rw [hread] at hkeeps
          have hpeer : link'.peer = link.peer := hkeeps
          exact .heard (hpeer ▸ hseen) hanswer
      | fails => exact .failing
      | world hmove =>
          exact .reading hwritten
            (hasked.moves hfed (hwritten ▸ List.prefix_rfl) hanswers hmove)
  | heard hseen hanswer =>
      cases hwithin with
      | elsewhere => exact .heard hseen hanswer
      | fails => exact .failing
      | world hmove => exact .heard (getElem?_of_front (moves_seen hmove) hseen) hanswer
  | failing =>
      cases hwithin with
      | elsewhere => exact .failing
      | fails => exact .failing
      | world hmove => exact .failing

/-- A turn that heard its reply: it ended, and if it succeeded, with the
board's answer. -/
def HeardReply {κ : Type} (number : Nat) (request : List UInt8) (command : Command)
    (s : Shared κ Remote) : Prop :=
  ∃ (turn : Turn κ) (outcome : Ending), s.turns[number]? = some turn
    ∧ turn.outcome? = some outcome
    ∧ ∀ heard, outcome = .ok heard → ∃ b text, heard = [text]
      ∧ s.link.peer.seen[request.length]? = some b ∧ b.Answers command text

variable {κ : Type} [DecidableEq κ] {before : List UInt8} {s s' : Shared κ Remote} {client : κ}

/-- A turn that is released has heard its reply. -/
theorem Hearing.released (h : Hearing number message request command s.link (s.phase client))
    (hlock : Lock s) {outcome : Ending}
    (houtcome : (s.phase client).outcome? = some (number, outcome)) :
    HeardReply number request command (s.released client number outcome) := by
  obtain ⟨done, turn, hholds, rfl⟩ := hlock.holds (Phase.number_of_outcome houtcome)
  refine ⟨{ turn with outcome? := some outcome }, outcome, ?_, rfl, ?_⟩
  · rw [(hholds.released houtcome).1, List.getElem?_append_right (Nat.le_refl _), Nat.sub_self]
    rfl
  · rintro heard rfl
    generalize hphase : s.phase client = phase at h houtcome
    cases h with
    | heard hseen hanswer =>
        cases houtcome
        exact ⟨_, _, rfl, hseen, hanswer⟩
    | _ => cases houtcome

include hanswers in
/-- Whatever the others do meanwhile and later, the turn of a client that
asks goes on as it should, or it has heard the reply. -/
theorem steps_hearing (hsteps : Steps Remote.Moves s s') (horderly : Orderly before s)
    (hfed : Fed circuit s.link.written s.link.peer)
    (h : Hearing number message request command s.link (s.phase client)) :
    Hearing number message request command s'.link (s'.phase client)
      ∨ HeardReply number request command s' := by
  induction hsteps with
  | refl => exact .inl h
  | tail hsteps hstep ih =>
      have horderly' := steps_orderly hsteps horderly
      rcases ih with hhearing | ⟨turn, outcome, hturn, hended, hheard⟩
      · rcases step_within horderly'.lock hhearing.in_turn hstep with
          hwithin | ⟨outcome, houtcome, rfl⟩
        · exact .inl (hhearing.within hanswers (steps_fed hsteps hfed) hwithin)
        · exact .inr (hhearing.released horderly'.lock houtcome)
      · obtain ⟨turn', hturn', -, -, hkept⟩ := step_grown horderly'.lock hstep _ _ hturn
        obtain rfl := hkept (hended ▸ rfl)
        refine .inr ⟨turn', outcome, hturn', hended, fun heard hok => ?_⟩
        obtain ⟨b, text, htext, hseen, hanswer⟩ := hheard heard hok
        exact ⟨b, text, htext, getElem?_of_front (steps_extend (.single hstep)).2 hseen, hanswer⟩

end Hearing

-- ======================================================= idle position

namespace Remote

/-- The board as it was behind some bytes of the stream, when it had taken
them and not yet the next one. -/
def behind? (remote : Remote) (bytes : List UInt8) : Option Board := remote.seen[bytes.length]?

end Remote

variable {κ : Type}

/-- Idle position: once the board has taken all that was written it is at
the start of a line, and no motor waits. -/
structure Shared.Idle (s : Shared κ Remote) : Prop where
  pending : (s.link.peer.settled s.link.written).pending = []
  waiting : (s.link.peer.settled s.link.written).waiting? = none

/-- Every reply was read: once the board has taken all that was written it
has nothing to send, and nothing is left of what came in. -/
structure Shared.AllRead (s : Shared κ Remote) : Prop where
  output : (s.link.peer.settled s.link.written).output = []
  inbox : s.link.inbox = []
  begun : s.link.begun = []

/-- An exchange with a board that succeeds: clients share a transport to a
board that was just switched on, one of them waits, acquires the lock, and
sooner or later its turn has ended with what was heard. -/
structure Carried [DecidableEq κ] (circuit : Circuit) (s s' : Shared κ Remote) (halves : List Half)
    (heard : List String) : Prop where
  reached : ∃ limit, Steps Remote.Moves (.fresh (Remote.switchedOn circuit limit)) s
  free : s.holder = none
  acquired : ∃ client exchange, s.phase client = .waiting exchange
    ∧ exchange.halves = .ok halves
    ∧ Steps Remote.Moves (s.acquired client exchange halves) s'
  ended : ∃ turn, s'.turns[s.turns.length]? = some turn ∧ turn.outcome? = some (.ok heard)

section Boards

variable {circuit : Circuit} {assignments : List Assignment} {s s' : Shared κ Remote}

theorem Shared.Idle.atRest (hs : Served assignments)
    (hseparate : Separate (speedPins assignments))
    (hcommands : circuit.commands = commandTable assignments) (h : s.Idle)
    (hfed : Fed circuit s.link.written s.link.peer) :
    (circuit.start.feedAll s.link.written).AtRest circuit := by
  refine atRest_of_reaches hs hseparate hcommands (Board.feedAll_reaches _) ?_ ?_
  · rw [← congr_core Board.pending (fun _ => rfl) hfed.settled, h.pending]
  · rw [← congr_core Board.waiting? (fun _ => rfl) hfed.settled, h.waiting]

/-- Issued at rest and with every reply read, a request has all of its
reply to come and nothing else. -/
theorem Shared.Idle.asked (h : s.Idle) (hread : s.AllRead)
    (hfed : Fed circuit s.link.written s.link.peer) (command : Command)
    {line : List UInt8} (hline : ∀ byte ∈ line, byte ≠ lineEnd) :
    Asked (s.link.written ++ line) command s.link.peer s.link.begun s.link.inbox := by
  have hsilent : s.link.peer.board.output = [] :=
    List.prefix_nil.1 (hread.output ▸ feedAll_output s.link.peer.board _)
  refine .unanswered ?_ ?_ ⟨[], hread.inbox, fun _ hc => absurd hc List.not_mem_nil, ?_⟩
  · rw [List.length_append]
    exact Nat.le_add_right_of_le hfed.taken
  · rw [List.drop_append_of_le_length hfed.taken, Board.feedAll_append]
    show ((s.link.peer.settled s.link.written).feedAll line).output = []
    rw [Board.feedAll_open hline (by rw [h.pending]; exact Nat.zero_le _)]
    exact hread.output
  · rw [hread.begun, hsilent]
    rfl

variable [DecidableEq κ] {halves : List Half} {heard : List String}

theorem Carried.orderly (h : Carried circuit s s' halves heard) : Orderly [] s := by
  obtain ⟨limit, hsteps⟩ := h.reached
  exact steps_orderly hsteps (fresh_orderly (Remote.switchedOn circuit limit))

theorem Carried.fed (h : Carried circuit s s' halves heard) :
    Fed circuit s.link.written s.link.peer := by
  obtain ⟨limit, hsteps⟩ := h.reached
  exact steps_fed hsteps (switchedOn_fed circuit limit)

/-- Everything that an exchange has to send goes on the stream right behind
what was written before. -/
theorem Carried.written (h : Carried circuit s s' halves heard) :
    s.link.written ++ bytesOf halves <+: s'.link.written
      ∧ Fed circuit s'.link.written s'.link.peer := by
  obtain ⟨client, exchange, hwaits, hhalves, hsteps⟩ := h.acquired
  have hacquire : Step Remote.Moves s (s.acquired client exchange halves) :=
    .acquire hwaits hhalves h.free
  have horderly := steps_orderly hsteps (step_orderly h.orderly hacquire)
  refine ⟨?_, steps_fed hsteps (step_fed hacquire h.fed)⟩
  obtain ⟨turn, rest, hturns, -, hexchange⟩ :=
    turn_of_acquired h.orderly h.free hhalves hsteps
  obtain ⟨turn', hturn', hended⟩ := h.ended
  rw [hturns, List.getElem?_append_right (Nat.le_refl _), Nat.sub_self] at hturn'
  obtain rfl := Option.some_inj.1 hturn'
  obtain ⟨all, hall, -, hwhole⟩ := horderly.sent
    (show turn ∈ s'.turns by rw [hturns]; exact List.mem_append_right _ (List.mem_cons_self ..))
  have hsame : all = halves := by
    rw [hexchange, hhalves] at hall
    exact (Except.ok.inj hall).symm
  rw [horderly.written, hturns, h.orderly.written, List.flatMap_append, List.flatMap_cons,
    hwhole heard hended, hsame, ← List.append_assoc, ← List.append_assoc]
  exact List.prefix_append ..

/-- With nobody else about and a board that is prompt, an exchange that the
transport can carry out is one that succeeds. -/
theorem carried_promptly {limit : Duration}
    (hreached : Steps Remote.Moves (.fresh (Remote.switchedOn circuit limit)) s)
    (hfree : s.holder = none) (client : κ) (hresting : s.phase client = .resting)
    (link : Transport Remote) (hlink : s.link = link)
    (hprompt : link.peer.seen.length = link.written.length) (exchange : Exchange)
    (hhalves : exchange.halves = .ok halves) (hok : endingOf (exchange.perform link) = .ok heard) :
    ∃ sent,
      let after : Shared κ Remote :=
        { link := stateAfter (exchange.perform link)
          phase := s.phase
          turns := s.turns ++ [{ client, exchange, sent, outcome? := some (.ok heard) }] }
      Carried circuit (s.become client (.waiting exchange)) after halves heard
        ∧ Steps Remote.Moves (.fresh (Remote.switchedOn circuit limit)) after := by
  subst hlink
  let waiting := s.become client (.waiting exchange)
  have hwaits : waiting.phase client = .waiting exchange := overlay_same ..
  have hcalled := hreached.tail (.call hresting hhalves)
  obtain ⟨sent, hsteps⟩ :=
    acquired_steps Remote.answering waiting client hprompt hhalves
  have hphase : overlay waiting.phase client .resting = s.phase := by
    rw [show waiting.phase = overlay s.phase client (.waiting exchange) from rfl, overlay_overlay,
      overlay_self hresting]
  rw [hphase, show endingOf (exchange.perform waiting.link) = .ok heard from hok] at hsteps
  let turn : Turn κ := { client, exchange, sent, outcome? := some (.ok heard) }
  have hturn : (s.turns ++ [turn])[s.turns.length]? = some turn := by
    rw [List.getElem?_append_right (Nat.le_refl _), Nat.sub_self]
    rfl
  exact ⟨sent,
    ⟨⟨limit, hcalled⟩, hfree, ⟨client, exchange, hwaits, hhalves, hsteps⟩, turn, hturn, rfl⟩,
    (hcalled.tail (.acquire hwaits hhalves hfree)).trans hsteps⟩

variable (hs : Served assignments) (hseparate : Separate (speedPins assignments))
  (hcommands : circuit.commands = commandTable assignments) (hidle : s.Idle)

include hs hseparate hcommands hidle

/-- Issued at rest, the line behind a command for a duty is the duty of
the motor that was named. -/
theorem duty_taken {a : Assignment} (ha : a ∈ assignments) {command : Command}
    (hc : command ∈ a.commands) (hfits : command.line.length ≤ circuit.capacity) {pwm : Pin}
    (haction : command.action = .awaitSpeed pwm) {message : String}
    (h : Carried circuit s s' [.write command.line, .write message] heard) {b : Board}
    (hb : s'.link.peer.behind? (s.link.written ++ (Frame.ofMessage command.line).bytes
      ++ message.toList.map sentByte) = some b) :
    b.Sets (slotOf (a.name, pwm) true) (keptOf circuit.capacity message) := by
  obtain ⟨hwritten, hfed⟩ := h.written
  have hfront : s.link.written ++ (Frame.ofMessage command.line).bytes
      ++ message.toList.map sentByte <+: s'.link.written := by
    refine List.IsPrefix.trans ?_ hwritten
    rw [bytesOf_write, bytesOf_write, List.append_assoc, List.prefix_append_right_inj,
      List.prefix_append_right_inj, Frame.bytes_ofMessage, List.append_assoc]
    exact List.prefix_append ..
  refine sets_of_core hs hseparate hcommands (hidle.atRest hs hseparate hcommands h.fed) ha hc
    hfits haction ?_
  rw [hfed.seen hb, ← List.prefix_iff_eq_take.1 hfront, Board.feedAll_append,
    Board.feedAll_append]
  rfl

/-- Issued at rest and with every reply read, a command that is replied to
has the board's reply heard. -/
theorem reply_heard (htoken : isTimeoutToken circuit.ranging.timeoutToken = true)
    (hread : s.AllRead) {command : Command} (hc : command ∈ commandTable assignments)
    (hreplies : command.action.replies = true) (hfits : command.line.length ≤ circuit.capacity)
    (h : Carried circuit s s' [.write command.line, .read] heard) :
    ∃ b text, s'.link.peer.behind? (s.link.written ++ Utf8.encode command.line) = some b
      ∧ b.Answers command text ∧ heard = [text] := by
  have hplain := table_plain hs hc
  obtain ⟨client, exchange, hwaits, hhalves, hsteps⟩ := h.acquired
  have hacquire : Step Remote.Moves s (s.acquired client exchange _) :=
    .acquire hwaits hhalves h.free
  have hanswers : ∀ b : Board,
      b.core = (circuit.start.feedAll (s.link.written ++ Utf8.encode command.line)).core →
        ∃ text, IsPlain text.toList ∧ b.Answers command text := by
    intro b hcore
    rw [Board.feedAll_append] at hcore
    exact answers_of_core hs hcommands htoken (hidle.atRest hs hseparate hcommands h.fed) hc
      hreplies hfits hcore
  have hphase : (s.acquired client exchange [.write command.line, .read]).phase client
      = .turning s.turns.length [] [.write command.line, .read] := overlay_same ..
  have hstart : Hearing s.turns.length command.line (s.link.written ++ Utf8.encode command.line)
      command s.link (.turning s.turns.length [] [.write command.line, .read]) := by
    refine .start ?_ (hidle.asked hread h.fed command
      fun byte hbyte => (encode_plain_bytes hplain byte hbyte).1)
    rw [frame_plain hplain]
    exact (List.append_assoc ..).symm
  obtain ⟨turn, hturn, hended⟩ := h.ended
  have horderly := step_orderly h.orderly hacquire
  -- a turn that has ended is no longer on its way to the reply
  rcases steps_hearing hanswers hsteps horderly (step_fed hacquire h.fed)
    (hphase ▸ hstart) with hhearing | ⟨turn', outcome, hturn', hended', hheard⟩
  · have hnone := (steps_orderly hsteps horderly).lock.unended hhearing.in_turn hturn
    rw [hended] at hnone
    cases hnone
  · obtain rfl := Option.some_inj.1 (hturn.symm.trans hturn')
    obtain ⟨b, text, htext, hseen, hanswer⟩ :=
      hheard heard (Option.some_inj.1 (hended'.symm.trans hended))
    exact ⟨b, text, hseen, hanswer, htext⟩

end Boards

-- ============================================================== a rover

/-- A transport to the robot. -/
def roverLink : Transport Remote :=
  Remote.switchedOn (({} : Firmware).circuit roverAssignments) ⟨1000⟩

/-- Asks the robot for the voltage of its battery. -/
def askBattery : Exchange := .sendThen "VOLTAGE_SENSOR_COLLECT Battery" .receive

/-- Sets the speed of the robot's motor. -/
def driveLeft : Exchange := .sendThen "MOTOR_SPEED Left" (.send "200")

/-- Two clients of the robot, one after the other. -/
theorem carried_in_turn (first second : Exchange) (heard heard' : List String)
    {halves halves' : List Half} (hhalves : first.halves = .ok halves)
    (hhalves' : second.halves = .ok halves') {link : Transport Remote}
    (hlink : link = stateAfter (first.perform roverLink))
    (hok : endingOf (first.perform roverLink) = .ok heard)
    (hprompt : link.peer.seen.length = link.written.length)
    (hok' : endingOf (second.perform link) = .ok heard') :
    ∃ s : Shared Bool Remote, Steps Remote.Moves (.fresh roverLink) s
      ∧ s.link = stateAfter (second.perform link)
      ∧ s.turns.map Turn.exchange = [first, second]
      ∧ s.turns.map Turn.outcome? = [some (.ok heard), some (.ok heard')] := by
  obtain ⟨sent, -, hsteps⟩ := carried_promptly (s := .fresh roverLink) .refl rfl false rfl
    roverLink rfl rfl first hhalves hok
  rw [← hlink] at hsteps
  obtain ⟨sent', -, hsteps⟩ := carried_promptly hsteps rfl true rfl link rfl hprompt
    second hhalves' hok'
  exact ⟨_, hsteps, rfl, rfl, rfl⟩

-- =========================================================== the theorem

/-- Exchanges are atomic on the stream. Whoever shares a transport, and
whatever fails on the way: the stream has the bytes of the turns one after
the other in the order of acquisition, each turn's own and no others; the
step that ends a turn gives the lock back, the lock is free just when all
turns have ended, and who has it can give it back without anybody else.

And to a board at the far end an exchange that was issued in idle position
and succeeded is one request: a command that is replied to, if every reply
before it was read, has the board's reply to it heard; and the line behind
a command for a duty is the duty of the very motor it names. -/
theorem exchanges_atomic {κ : Type} [DecidableEq κ] :
    (∀ {π : Type} {world : World π} {link : Transport π} {s : Shared κ π},
      Steps world (.fresh link) s →
        s.link.written = link.written ++ s.turns.flatMap Turn.sent
        ∧ (∀ turn ∈ s.turns, ∃ halves, turn.exchange.halves = .ok halves
          ∧ turn.sent <+: bytesOf halves
          ∧ ∀ heard, turn.outcome? = some (.ok heard) → turn.sent = bytesOf halves)
        ∧ (s.holder = none ↔ ∀ turn ∈ s.turns, turn.outcome?.isSome = true)
        ∧ (∀ {s' : Shared κ π} {number : Nat} {turn turn' : Turn κ}, Step world s s' →
          s.turns[number]? = some turn → turn.outcome? = none →
          s'.turns[number]? = some turn' → turn'.outcome?.isSome = true → s'.holder = none)
        ∧ ∃ s', Steps world s s' ∧ s'.holder = none)
    ∧ ∀ {generator : Generator} {agent : Agent} {artifacts : Artifacts},
      generator.pools.Available → generator.render agent = .ok artifacts →
      ∀ {s s' : Shared κ Remote} {halves : List Half} {heard : List String},
        Carried (generator.firmware.circuit artifacts.assignments) s s' halves heard → s.Idle →
        (∀ command ∈ commandTable artifacts.assignments, command.action.replies = true →
          command.line.length ≤ generator.firmware.accumulatorSize →
          halves = [.write command.line, .read] → s.AllRead →
          ∃ b text, s'.link.peer.behind? (s.link.written ++ Utf8.encode command.line) = some b
            ∧ b.Answers command text ∧ heard = [text])
        ∧ ∀ a ∈ artifacts.assignments, ∀ command ∈ a.commands, ∀ pwm message b,
          command.action = .awaitSpeed pwm →
          command.line.length ≤ generator.firmware.accumulatorSize →
          halves = [.write command.line, .write message] →
          s'.link.peer.behind? (s.link.written ++ (Frame.ofMessage command.line).bytes
            ++ message.toList.map sentByte) = some b →
          b.Sets (slotOf (a.name, pwm) true)
            (keptOf generator.firmware.accumulatorSize message) := by
  constructor
  · intro π world link s hsteps
    have horderly := steps_orderly hsteps (fresh_orderly link)
    exact ⟨horderly.written, fun turn hturn => horderly.sent hturn, horderly.lock.free_iff,
      fun hstep hturn hunended hturn' hended => step_frees hstep hturn hunended hturn' hended,
      horderly.lock.given_back world⟩
  · intro generator agent artifacts hpools hrender s s' halves heard hcarried hidle
    have hr := rendered_of_render hrender
    have hs := hr.served
    have hseparate := hr.separate hpools
    have hcommands : (generator.firmware.circuit artifacts.assignments).commands
        = commandTable artifacts.assignments := rfl
    constructor
    · rintro command hc hreplies hfits rfl hread
      exact reply_heard hs hseparate hcommands hidle (token_of_accepted generator.accepted) hread hc
        hreplies hfits hcarried
    · rintro a ha command hc pwm message b haction hfits rfl hb
      exact duty_taken hs hseparate hcommands hidle ha hc hfits haction hcarried hb

/-- One client of the robot asks for the voltage, and then another one sets
the speed of the motor. -/
theorem exchanges_atomic_rover :
    let ask : List Half := [.write "VOLTAGE_SENSOR_COLLECT Battery", .read]
    let drive : List Half := [.write "MOTOR_SPEED Left", .write "200"]
    ∃ asked driven : Shared Bool Remote,
      Steps Remote.Moves (.fresh roverLink) asked ∧ Steps Remote.Moves (.fresh roverLink) driven
      ∧ driven.turns.flatMap Turn.sent = bytesOf (ask ++ drive)
      ∧ (∀ turn ∈ driven.turns, turn.outcome?.isSome = true)
      ∧ (∃ b command text, asked.link.peer.behind? (bytesOf ask).dropLast = some b
        ∧ command.line = "VOLTAGE_SENSOR_COLLECT Battery" ∧ b.Answers command text
        ∧ text = "0.000")
      ∧ ∃ b, driven.link.peer.behind? (bytesOf (ask ++ drive)).dropLast = some b
        ∧ b.Sets (slotOf ("Left", ⟨.pwm, 3⟩) true) (keptOf 64 "200") := by
  intro ask drive
  have haccepted : ({} : Firmware).refusal? = none := by decide +kernel
  have hrender : Generator.render ⟨.uno, {}, haccepted⟩ rover = .ok (roverArtifacts {}) :=
    render_rover rfl
  have hroom : ∀ command ∈ commandTable roverAssignments, command.line.length ≤ 64 := by decide
  -- the two links by name, or unification would run the exchanges
  obtain ⟨link, hlink⟩ : ∃ link, link = stateAfter (askBattery.perform roverLink) := ⟨_, rfl⟩
  obtain ⟨last, hlast⟩ : ∃ last, last = stateAfter (driveLeft.perform link) := ⟨_, rfl⟩
  have hvoltage : endingOf (askBattery.perform roverLink) = .ok ["0.000"] := by decide +kernel
  have hspeed : endingOf (driveLeft.perform link) = .ok [] := by
    rw [hlink]
    decide +kernel
  have hprompt : link.peer.seen.length = link.written.length := by
    rw [hlink]
    decide +kernel
  obtain ⟨sent, hask, hasked⟩ := carried_promptly (s := .fresh roverLink) .refl rfl false rfl
    roverLink rfl rfl askBattery rfl hvoltage
  rw [← hlink] at hask hasked
  obtain ⟨sent', hdrive, hdriven⟩ := carried_promptly hasked rfl true rfl link rfl hprompt
    driveLeft rfl hspeed
  rw [← hlast] at hdrive hdriven
  obtain ⟨hwritten, -, hfree, -⟩ := exchanges_atomic.1 hdriven
  refine ⟨_, _, hasked, hdriven, ?_, hfree.1 rfl, ?_, ?_⟩
  · refine hwritten.symm.trans ?_
    show last.written = _
    rw [hlast, hlink]
    decide +kernel
  · have hidle : (Shared.become (.fresh roverLink) false (.waiting askBattery)).Idle :=
      ⟨rfl, start_idle _⟩
    obtain ⟨b, text, hb, hanswers, hheard⟩ := (exchanges_atomic.2 (.own .uno) hrender hask hidle).1
      ⟨"Battery", .collect, .voltageCollect, .readVoltage ⟨.analog, 0⟩⟩ (by decide) rfl
      (hroom _ (by decide)) rfl ⟨rfl, rfl, rfl⟩
    exact ⟨b, _, text, hb, rfl, hanswers, (List.singleton_inj.1 hheard).symm⟩
  · have hidle : (link.peer.settled link.written).pending = []
        ∧ (link.peer.settled link.written).waiting? = none := by
      rw [hlink]
      decide +kernel
    obtain ⟨b, hb⟩ : ∃ b, last.peer.behind? (bytesOf (ask ++ drive)).dropLast = some b := by
      rw [← Option.isSome_iff_exists, hlast, hlink]
      decide +kernel
    have hplace : link.written ++ (Frame.ofMessage "MOTOR_SPEED Left").bytes
        ++ "200".toList.map sentByte = (bytesOf (ask ++ drive)).dropLast := by
      rw [hlink]
      decide +kernel
    exact ⟨b, hb, (exchanges_atomic.2 (.own .uno) hrender hdrive ⟨hidle.1, hidle.2⟩).2
      _ (.head _) ⟨"Left", .speed, .motorSpeed, .awaitSpeed ⟨.pwm, 3⟩⟩ (by decide) _ "200" b rfl
      (hroom _ (by decide)) rfl (hplace ▸ hb)⟩

/-- Why the position has to be idle and every reply read. A client of the
robot names the motor and leaves it waiting, and the next one's duty goes
unheard; or a client asks for the voltage and reads no reply, and the next
one that asks for the distance hears the voltage. No operation fails. -/
theorem idle_position_needed :
    (∃ s : Shared Bool Remote, Steps Remote.Moves (.fresh roverLink) s
      ∧ s.turns.map Turn.exchange = [.send "MOTOR_SPEED Left", driveLeft]
      ∧ s.turns.map Turn.outcome? = [some (.ok []), some (.ok [])]
      ∧ ∃ b, s.link.peer.behind? (bytesOf
          [.write "MOTOR_SPEED Left", .write "MOTOR_SPEED Left", .write "200"]).dropLast = some b
        ∧ b.waiting? = none ∧ (b.feed lineEnd).unmatched = 1 ∧ (b.feed lineEnd).duties 3 = some 0)
    ∧ ∃ s : Shared Bool Remote, Steps Remote.Moves (.fresh roverLink) s
      ∧ s.turns.map Turn.exchange
        = [.send "VOLTAGE_SENSOR_COLLECT Battery", .sendThen "VL53L0X_COLLECT Front" .receive]
      ∧ s.turns.map Turn.outcome? = [some (.ok []), some (.ok ["0.000"])]
      ∧ ∃ b, s.link.peer.behind? (bytesOf [.write "VOLTAGE_SENSOR_COLLECT Battery",
          .write "VL53L0X_COLLECT Front"]).dropLast = some b
        ∧ (b.feed lineEnd).output = b.output ++ Utf8.encode "TIMEOUT" ++ [lineEnd] := by
  constructor
  · obtain ⟨link, hlink⟩ : ∃ link, link = stateAfter
        ((Exchange.send "MOTOR_SPEED Left").perform roverLink) := ⟨_, rfl⟩
    obtain ⟨s, hsteps, hlast, hexchanges, houtcomes⟩ := carried_in_turn
      (.send "MOTOR_SPEED Left") driveLeft [] [] rfl rfl hlink (by decide +kernel)
      (by rw [hlink]; decide +kernel) (by rw [hlink]; decide +kernel)
    have hmissed : (s.link.peer.behind? (bytesOf
        [.write "MOTOR_SPEED Left", .write "MOTOR_SPEED Left", .write "200"]).dropLast).map
          (fun b => (b.waiting?, (b.feed lineEnd).unmatched, (b.feed lineEnd).duties 3))
        = some (none, 1, some 0) := by
      rw [hlast, hlink]
      decide +kernel
    obtain ⟨b, hb, hseen⟩ := Option.map_eq_some_iff.1 hmissed
    obtain ⟨hidle, hunmatched, hduty⟩ : _ ∧ _ ∧ _ := by simpa using hseen
    exact ⟨s, hsteps, hexchanges, houtcomes, b, hb, hidle, hunmatched, hduty⟩
  · obtain ⟨link, hlink⟩ : ∃ link, link = stateAfter
        ((Exchange.send "VOLTAGE_SENSOR_COLLECT Battery").perform roverLink) := ⟨_, rfl⟩
    obtain ⟨s, hsteps, hlast, hexchanges, houtcomes⟩ := carried_in_turn
      (.send "VOLTAGE_SENSOR_COLLECT Battery") (.sendThen "VL53L0X_COLLECT Front" .receive)
      [] ["0.000"] rfl rfl hlink (by decide +kernel)
      (by rw [hlink]; decide +kernel) (by rw [hlink]; decide +kernel)
    have hmistaken : (s.link.peer.behind? (bytesOf [.write "VOLTAGE_SENSOR_COLLECT Battery",
        .write "VL53L0X_COLLECT Front"]).dropLast).map
          (fun b => ((b.feed lineEnd).output, b.output))
        = some (Utf8.encode "TIMEOUT" ++ [lineEnd], []) := by
      rw [hlast, hlink]
      decide +kernel
    obtain ⟨b, hb, hseen⟩ := Option.map_eq_some_iff.1 hmistaken
    obtain ⟨hanswer, hsilent⟩ := Prod.mk.inj hseen
    exact ⟨s, hsteps, hexchanges, houtcomes, b, hb, by rw [hanswer, hsilent]; rfl⟩

end SerialEndpoint
