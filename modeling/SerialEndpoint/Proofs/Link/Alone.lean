/-
The steps of an exchange against the operations of the transport. An
operation of the transport is carried out in one go; with nobody else
about, the steps of the exchange come to the same: the same link, the same
outcome and the lock free again (`acquired_steps`). So the steps allow all
that the operations do, and beyond that every way to interleave them.

# From an operation to its halves

Each operation of the transport is written down by itself, and so is each
exchange. `perform_eq` says that an exchange is its halves one after the
other up to the first that fails, which is how the steps go about it.

# From a half to steps

`Shared.reached` names the states on the way: some bytes were taken in the
client's turn, and the link and the client's phase are what they are by then.
Every step that the client takes leads from one such state to another, so
only the bytes, the link and the phase have to be followed:

- a write is a frame of which some bytes are taken, and then a flush or a cut
  (`write_steps`). How many are taken is up to the far end, and all cases of
  its uptake are these two;
- a read is one step (`read_step`).

`performAll_steps` puts them together by induction on the halves that are
left. Behind a half that has failed there are no more steps, and the phase is
the one from which a turn can end.

# The far end

An operation has the far end answer a frame at once (`Peer.offer`); among the
steps the far end answers in moves of its own. That the first is a case of
the second is an assumption about the far end (`Answering`). It is made only
where the far end stands as it should to what was written, and therefore an
answer has to leave it standing so: this is what the induction carries along
besides the state (`perform_stands`).
-/
import SerialEndpoint.Proofs.Link.Turns

namespace SerialEndpoint

variable {κ π : Type} [DecidableEq κ] [Peer π]

-- =========================================================== operations

/-- A half as the transport carries it out, with what is heard. -/
def Half.perform : Half → OnLink (Transport π) (List String)
  | write message => do
    Transport.send message
    pure []
  | read => do
    let text ← Transport.receive
    pure [text]

/-- Halves carried out one after the other, up to the first that fails. -/
def performAll : List Half → OnLink (Transport π) (List String)
  | [] => pure []
  | half :: rest => do
    let heard ← half.perform
    let more ← performAll rest
    pure (heard ++ more)

/-- An exchange as the transport carries it out, with what is heard. -/
def Exchange.perform : Exchange → OnLink (Transport π) (List String)
  | send message => do
    Transport.send message
    pure []
  | receive => do
    let text ← Transport.receive
    pure [text]
  | sendThen message followUp => Option.toList <$> Transport.sendThen message followUp
  | receiveThen followUp => do
    let (received, reply) ← Transport.receiveThen followUp
    pure (received :: reply.toList)
  | sendThenNamed message name argument =>
    Option.toList <$> Transport.sendThenNamed message name argument

theorem map_run {ε σ α β : Type} (f : α → β) (x : EStateM ε σ α) (s : σ) :
    (f <$> x) s = match x s with
      | .ok a s => .ok (f a) s
      | .error e s => .error e s := rfl

theorem pure_run {ε σ α : Type} (a : α) (s : σ) :
    (pure a : EStateM ε σ α) s = .ok a s := rfl

theorem performAll_cons_run (half : Half) (rest : List Half) (link : Transport π) :
    performAll (half :: rest) link = match half.perform link with
      | .ok heard between => match performAll rest between with
        | .ok more after => .ok (heard ++ more) after
        | .error fault after => .error fault after
      | .error fault between => .error fault between := by
  rw [performAll, bind_run]
  cases half.perform link with
  | error fault between => rfl
  | ok heard between =>
      simp only
      rw [bind_run]
      cases performAll rest between <;> rfl

theorem perform_write_run (message : String) (link : Transport π) :
    (Half.write message).perform link = match Transport.send message link with
      | .ok () after => .ok [] after
      | .error fault after => .error fault after := by
  rw [Half.perform, bind_run]
  cases Transport.send message link <;> rfl

theorem perform_read_run (link : Transport π) :
    Half.read.perform link = match Transport.receive link with
      | .ok text after => .ok [text] after
      | .error fault after => .error fault after := by
  rw [Half.perform, bind_run]
  cases Transport.receive link <;> rfl

/-- The last half of an exchange is its follow-up. -/
theorem perform_followUp (followUp : FollowUp) (link : Transport π) :
    performAll [followUp.half] link = match Transport.follow followUp link with
      | .ok reply after => .ok reply.toList after
      | .error fault after => .error fault after := by
  rw [performAll_cons_run]
  cases followUp with
  | send message =>
      simp only [FollowUp.half, perform_write_run, Transport.follow, bind_run, pure_run, performAll]
      cases Transport.send message link <;> rfl
  | receive =>
      simp only [FollowUp.half, perform_read_run, Transport.follow, map_run, pure_run, performAll]
      cases Transport.receive link <;> rfl

theorem perform_sendThen (message : String) (followUp : FollowUp) (link : Transport π) :
    (Option.toList <$> Transport.sendThen message followUp : OnLink (Transport π) _) link
      = performAll [.write message, followUp.half] link := by
  rw [performAll_cons_run, perform_write_run, map_run, Transport.sendThen, bind_run]
  cases Transport.send message link with
  | error fault between => rfl
  | ok done between =>
      simp only
      rw [perform_followUp]
      cases Transport.follow followUp between <;> rfl

/-- An exchange is its halves, one after the other; if it has none it
fails at once. -/
theorem perform_eq (exchange : Exchange) (link : Transport π) :
    exchange.perform link = match exchange.halves with
      | .ok halves => performAll halves link
      | .error fault => .error fault link := by
  cases exchange with
  | send message =>
      show (Half.write message).perform link = performAll [.write message] link
      rw [performAll_cons_run]
      cases (Half.write message).perform link with
      | error fault after => rfl
      | ok heard after => simp only [performAll, pure_run, List.append_nil]
  | receive =>
      show Half.read.perform link = performAll [.read] link
      rw [performAll_cons_run]
      cases Half.read.perform link with
      | error fault after => rfl
      | ok heard after => simp only [performAll, pure_run, List.append_nil]
  | sendThen message followUp => exact perform_sendThen message followUp link
  | receiveThen followUp =>
      show _ = performAll [.read, followUp.half] link
      rw [performAll_cons_run, perform_read_run, Exchange.perform, bind_run,
        Transport.receiveThen, bind_run]
      cases Transport.receive link with
      | error fault between => rfl
      | ok text between =>
          simp only
          rw [perform_followUp, bind_run]
          cases Transport.follow followUp between <;> rfl
  | sendThenNamed message name argument =>
      show (Option.toList <$> Transport.sendThenNamed message name argument :
        OnLink (Transport π) _) link = match (fun followUp => [.write message, followUp.half]) <$>
          FollowUp.named name argument with
        | .ok halves => performAll halves link
        | .error fault => .error fault link
      unfold Transport.sendThenNamed
      cases FollowUp.named name argument with
      | error fault => rfl
      | ok followUp => exact perform_sendThen message followUp link

-- ================================================================ steps

/-- Where a client is once some of the halves of its turn were carried
out. -/
def phaseAfter (number : Nat) (heard : List String) (rest : List Half) :
    EStateM.Result LinkFault (Transport π) (List String) → Phase
  | .ok more _ => .turning number (heard ++ more) rest
  | .error fault _ => .failing number fault

/-- How an exchange ended. -/
def endingOf : EStateM.Result LinkFault (Transport π) (List String) → Ending
  | .ok heard _ => .ok heard
  | .error fault _ => .error fault

/-- What the far end comes to in several moves while nothing is written,
and what comes in because of them. -/
inductive Moved (world : World π) (written : List UInt8) : π → List Arrival → π → Prop where
  | refl {peer : π} : Moved world written peer [] peer
  | tail {peer between after : π} {arrivals more : List Arrival}
      (hmoved : Moved world written peer arrivals between)
      (hmove : world written between more after) :
      Moved world written peer (arrivals ++ more) after

omit [Peer π] in
theorem moved_steps {world : World π} (s : Shared κ π) {arrivals : List Arrival} {peer : π}
    (h : Moved world s.link.written s.link.peer arrivals peer) :
    Steps world s
      { s with link := { s.link with peer, inbox := s.link.inbox ++ arrivals } } := by
  generalize hstart : s.link.peer = start at h
  induction h with
  | refl =>
      subst hstart
      rw [List.append_nil]
  | tail hmoved hmove ih =>
      rw [← List.append_assoc]
      exact ih.tail (.world hmove)

/-- A kind of far end whose answers to frames are moves of its own,
wherever it stands as it should to what was written. -/
structure Answering (world : World π) (standing : List UInt8 → π → Prop) : Prop where
  moves {written : List UInt8} {peer : π} (hstanding : standing written peer)
    (frame : List UInt8) :
    let answer := Peer.offer peer frame
    Moved world (written ++ answer.uptake.taken frame) peer answer.arrivals answer.peer
  stands {written : List UInt8} {peer : π} (hstanding : standing written peer)
    (frame : List UInt8) :
    let answer := Peer.offer peer frame
    standing (written ++ answer.uptake.taken frame) answer.peer

omit [Peer π] in
theorem outcome_phaseAfter (number : Nat) (result : EStateM.Result _ (Transport π) _) :
    (phaseAfter number [] [] result).outcome? = some (number, endingOf result) := by
  cases result <;> rfl

/-- A state once some bytes were taken in a client's turn, and the link and
the client's phase are what they are after that. -/
def Shared.reached (s : Shared κ π) (client : κ) (number : Nat) (sent : List UInt8)
    (link : Transport π) (phase : Phase) : Shared κ π where
  link
  holder := s.holder
  phase := overlay s.phase client phase
  turns := s.turns.modify number fun turn => { turn with sent := turn.sent ++ sent }

theorem overlay_overlay {f : κ → Phase} (client : κ) (phase phase' : Phase) :
    overlay (overlay f client phase) client phase' = overlay f client phase' := by
  funext other
  unfold overlay
  split <;> rfl

theorem overlay_self {f : κ → Phase} {client : κ} {phase : Phase} (h : f client = phase) :
    overlay f client phase = f := by
  funext other
  unfold overlay
  split
  · rename_i hother
    rw [hother, h]
  · rfl

omit [Peer π] in
theorem reached_start (s : Shared κ π) (client : κ) (number : Nat) :
    s.reached client number [] s.link (s.phase client) = s := by
  unfold Shared.reached
  have hturns : (s.turns.modify number fun turn => { turn with sent := turn.sent ++ [] })
      = s.turns := by
    simp only [List.append_nil]
    exact List.modify_id ..
  rw [overlay_self rfl, hturns]

section Running

variable {world : World π} {s : Shared κ π} {client : κ} {number : Nat} {heard : List String}
  {sent : List UInt8} {link : Transport π}

omit [Peer π] in
theorem become_reached (phase phase' : Phase) :
    (s.reached client number sent link phase).become client phase'
      = s.reached client number sent link phase' := by
  unfold Shared.become Shared.reached
  rw [overlay_overlay]

omit [Peer π] in
theorem took_reached (chunk : List UInt8) (phase : Phase) :
    (s.reached client number sent link phase).took number chunk
      = s.reached client number (sent ++ chunk)
          { link with written := link.written ++ chunk } phase := by
  unfold Shared.took Shared.reached
  simp only
  rw [List.modify_modify_eq]
  congr 2
  funext turn
  simp [List.append_assoc]

omit [Peer π] in
theorem linked_reached (after : Transport π) (phase phase' : Phase) :
    Shared.become { s.reached client number sent link phase with link := after } client phase'
      = s.reached client number sent after phase' :=
  become_reached (s := s) phase phase'

omit [Peer π] in
theorem phase_reached (phase : Phase) :
    (s.reached client number sent link phase).phase client = phase := overlay_same ..

omit [Peer π] in
theorem Step.to {s s' s'' : Shared κ π} (h : Step world s s') (heq : s' = s'') :
    Step world s s'' :=
  heq ▸ h

omit [Peer π] in
/-- A frame of which some bytes are taken, and the far end's answer to
them. -/
theorem taken_steps {message : String} {rest : List Half} {taken left : List UInt8}
    (hsplit : (Frame.ofMessage message).bytes = taken ++ left) {arrivals : List Arrival}
    {peer : π} (hanswer : Moved world (link.written ++ taken) link.peer arrivals peer) :
    Steps world (s.reached client number sent link (.turning number heard (.write message :: rest)))
      (s.reached client number (sent ++ taken)
        { link with
          peer
          inbox := link.inbox ++ arrivals
          written := link.written ++ taken }
        (.writing number heard message left rest)) := by
  have hbegin : Step world
      (s.reached client number sent link (.turning number heard (.write message :: rest)))
      (s.reached client number sent link
        (.writing number heard message (taken ++ left) rest)) :=
    Step.to (.begin (phase_reached _)) (hsplit ▸ become_reached ..)
  have htake : Step world
      (s.reached client number sent link (.writing number heard message (taken ++ left) rest))
      (s.reached client number (sent ++ taken) { link with written := link.written ++ taken }
        (.writing number heard message left rest)) :=
    Step.to (.take (phase_reached _)) (by rw [took_reached, become_reached])
  exact ((Relation.ReflTransGen.single hbegin).tail htake).trans (moved_steps _ hanswer)

variable {standing : List UInt8 → π → Prop} (hanswering : Answering world standing)

include hanswering in
/-- A write is a frame of which some bytes are taken, and then a flush or
a cut. -/
theorem write_steps (hstanding : standing link.written link.peer) (message : String)
    (rest : List Half) :
    let result := (Half.write message).perform link
    ∃ taken, Steps world
      (s.reached client number sent link (.turning number heard (.write message :: rest)))
      (s.reached client number (sent ++ taken) (stateAfter result)
        (phaseAfter number heard rest result)) := by
  intro result
  have hresult : result = _ := perform_write_run message link
  rw [Transport.send_run] at hresult
  have hanswered := hanswering.moves hstanding (Frame.ofMessage message).bytes
  simp only [Transport.offered] at hresult
  generalize hframe : (Frame.ofMessage message).bytes = frame at hresult hanswered
  generalize Peer.offer link.peer frame = answer at hresult hanswered
  obtain ⟨uptake, arrivals, peer⟩ := answer
  rcases uptake with _ | ⟨count, reason⟩
  -- the peer takes the whole frame, and the write is flushed
  · have hsteps : Steps world _ (s.reached client number (sent ++ frame) _
        (.writing number heard message [] rest)) :=
      taken_steps (hframe.trans (List.append_nil frame).symm) hanswered
    refine ⟨frame, hsteps.tail ?_⟩
    rw [hresult]
    refine Step.to (.flush (phase_reached _)) ((linked_reached ..).trans ?_)
    show _ = s.reached client number (sent ++ frame) _ (.turning number (heard ++ []) rest)
    rw [List.append_nil]
    rfl
  -- the frame is cut, and what was taken of it stays written
  · have hsteps : Steps world _ (s.reached client number (sent ++ frame.take count) _
        (.writing number heard message (frame.drop count) rest)) :=
      taken_steps (hframe.trans (List.take_append_drop count frame).symm) hanswered
    refine ⟨frame.take count, hsteps.tail ?_⟩
    cases reason with
    | failed fault =>
        rw [hresult]
        exact Step.to (.cut (.failed fault) (phase_reached _)) (linked_reached ..)
    | blocked =>
        rw [hresult]
        exact Step.to (.cut .blocked (phase_reached _)) (linked_reached ..)

include hanswering in
/-- A half leaves the far end standing as it should. -/
theorem perform_stands (hstanding : standing link.written link.peer) (half : Half) :
    let after := stateAfter (half.perform link)
    standing after.written after.peer := by
  cases half with
  | write message =>
      have hstands := hanswering.stands hstanding (Frame.ofMessage message).bytes
      rw [perform_write_run, Transport.send_run]
      simp only [Transport.offered]
      generalize Peer.offer link.peer (Frame.ofMessage message).bytes = answer at hstands
      obtain ⟨uptake, arrivals, peer⟩ := answer
      rcases uptake with _ | ⟨count, fault | _⟩ <;> exact hstands
  | read =>
      have hkept : standing (stateAfter (Transport.receive link)).written
          (stateAfter (Transport.receive link)).peer := by
        obtain ⟨hpeer, hwritten⟩ := Transport.receive_keeps link
        rw [hpeer, hwritten]
        exact hstanding
      rw [perform_read_run]
      cases hread : Transport.receive link with
      | ok text after =>
          rw [hread] at hkept
          exact hkept
      | error fault after =>
          rw [hread] at hkept
          exact hkept

/-- A read is one step. -/
theorem read_step (rest : List Half) :
    let result := Half.read.perform link
    Step world (s.reached client number sent link (.turning number heard (.read :: rest)))
      (s.reached client number sent (stateAfter result) (phaseAfter number heard rest result)) := by
  intro result
  have hresult : result = _ := perform_read_run link
  cases hread : Transport.receive link with
  | ok text after =>
      rw [hread] at hresult
      rw [hresult]
      exact Step.to (.read (phase_reached _) hread) (linked_reached ..)
  | error fault after =>
      rw [hread] at hresult
      rw [hresult]
      exact Step.to (.readFails (phase_reached _) hread) (linked_reached ..)

include hanswering in
/-- The halves of a turn are steps of its client and of the far end. -/
theorem performAll_steps (s : Shared κ π) (client : κ) (number : Nat) (halves : List Half) :
    ∀ (heard : List String) (sent : List UInt8) (link : Transport π),
      standing link.written link.peer →
      let result := performAll halves link
      ∃ taken, Steps world
        (s.reached client number sent link (.turning number heard halves))
        (s.reached client number (sent ++ taken) (stateAfter result)
          (phaseAfter number heard [] result)) := by
  induction halves with
  | nil =>
      intro heard sent link hstanding result
      have hresult : phaseAfter number heard [] result = .turning number (heard ++ []) [] := rfl
      refine ⟨[], ?_⟩
      rw [hresult, List.append_nil, List.append_nil]
      exact .refl
  | cons half rest ih =>
      intro heard sent link hstanding result
      have hfirst : ∃ taken, Steps world
          (s.reached client number sent link (.turning number heard (half :: rest)))
          (s.reached client number (sent ++ taken) (stateAfter (half.perform link))
            (phaseAfter number heard rest (half.perform link))) := by
        cases half with
        | write message => exact write_steps hanswering hstanding message rest
        | read => exact ⟨[], .single ((List.append_nil sent).symm ▸ read_step rest)⟩
      obtain ⟨taken, hfirst⟩ := hfirst
      have hresult : result = _ := performAll_cons_run half rest link
      rw [hresult]
      cases hhalf : half.perform link with
      | error fault between =>
          rw [hhalf] at hfirst
          exact ⟨taken, hfirst⟩
      | ok more between =>
          rw [hhalf] at hfirst
          have hstands := perform_stands hanswering hstanding half
          rw [hhalf] at hstands
          -- a half that went well leaves the far end standing, so the others can follow
          obtain ⟨taken', hrest⟩ := ih (heard ++ more) (sent ++ taken) between hstands
          refine ⟨taken ++ taken', ?_⟩
          rw [← List.append_assoc]
          have hboth := hfirst.trans hrest
          simp only
          cases hlast : performAll rest between with
          | error fault after =>
              rw [hlast] at hboth
              exact hboth
          | ok last after =>
              rw [hlast] at hboth
              show Steps world _ (s.reached client number _ _
                (.turning number (heard ++ (more ++ last)) []))
              rw [← List.append_assoc]
              exact hboth

include hanswering in
/-- Once a client has acquired the lock it can carry out its exchange in
one go: the link is what the operation of the transport makes of it, the
turn ends as the operation does, and the lock is free again. -/
theorem acquired_steps (s : Shared κ π) (client : κ) {exchange : Exchange} {halves : List Half}
    (hstanding : standing s.link.written s.link.peer) (hhalves : exchange.halves = .ok halves) :
    let result := exchange.perform s.link
    ∃ sent, Steps world (s.acquired client exchange halves)
      { link := stateAfter result
        holder := none
        phase := overlay s.phase client .resting
        turns := s.turns ++ [{ client, exchange, sent, outcome? := some (endingOf result) }] } := by
  intro result
  have hresult : result = performAll halves s.link := by
    rw [show result = _ from perform_eq exchange s.link, hhalves]
  obtain ⟨sent, hturn⟩ := performAll_steps hanswering (s.acquired client exchange halves) client
    s.turns.length halves [] [] s.link hstanding
  rw [List.nil_append, ← hresult] at hturn
  have hbegun : (s.acquired client exchange halves).reached client s.turns.length [] s.link
      (.turning s.turns.length [] halves) = s.acquired client exchange halves := by
    have hphase : (s.acquired client exchange halves).phase client
        = .turning s.turns.length [] halves := overlay_same ..
    rw [← hphase]
    exact reached_start ..
  rw [hbegun] at hturn
  set after := (s.acquired client exchange halves).reached client s.turns.length sent
    (stateAfter result) (phaseAfter s.turns.length [] [] result) with hafter
  -- with no half left the turn has its outcome, and the lock is given back
  have hrelease : Step world after (after.released client s.turns.length (endingOf result)) :=
    .release (by
      rw [hafter, phase_reached]
      exact outcome_phaseAfter ..)
  refine ⟨sent, hturn.tail (Step.to hrelease ?_)⟩
  rw [hafter]
  unfold Shared.released Shared.reached Shared.acquired
  simp only
  rw [overlay_overlay, overlay_overlay, modify_last, modify_last]
  rfl

end Running

end SerialEndpoint
