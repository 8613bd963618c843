/-
Turns do not overlap. That is all the lock is for, and from it follows that
the stream is the turns' bytes one after the other.

# The invariant

`Orderly` has two parts. The stream is what was written before and then the
bytes of the turns, in the order in which the lock was acquired. And the lock
is in order (`Lock`): either it is free, nobody is in a turn and every turn so
far has ended, or exactly one client is in a turn, which is the last one and
the only one that has not ended.

The second part carries the first one. A byte that is written belongs to the
client that writes it, that client is in a turn, and the only turn that
anybody is in is the last one: so the byte is put behind all others in the
stream and behind all others of the turns (`Holds.took_written`).

Of the last turn `Underway` says how far it is: what was sent and what is
left make up the bytes of its exchange, unless a half has failed. Then only a
front of them was sent, and nothing more will be.

# Why every step keeps it

`step_orderly` goes through the steps, and there are four kinds of them:

- who calls is in no turn and comes into none (`Lock.become`); a refused call
  changes nothing at all;
- an acquisition finds the lock free, so all turns have ended and the new one
  can be the last (`Lock.acquired`);
- a step within a turn is one of the client that has the lock, for it is in a
  turn (`Lock.holds`). It goes on to a phase that is underway in the same turn
  (`Orderly.onward`, `Holds.took`);
- a turn that ends has nothing left, so it has sent all of its bytes or has
  failed (`Underway.ended`), and the lock is free again (`Holds.released`).

The far end writes nothing and has no turn.

# What else is had from it

- The step in which a turn ends gives the lock back (`step_frees`), and
  whoever has the lock can get there without anybody else
  (`Lock.given_back`): a frame can be cut off, and a read that comes to
  nothing ends the turn as well.
- To the client in a turn, all steps are its own, or moves of the far end, or
  none of its business (`step_within`). With this a run is seen from one turn.
- No step forgets a turn, or changes one that has ended (`steps_grown`), so a
  turn can be pointed at by its number through a whole run.
-/
import SerialEndpoint.Proofs.Link.Sharing

namespace SerialEndpoint

-- ================================================================ turns

/-- A turn that has ended: it has put a front of its exchange's bytes on
the stream, and all of them if it succeeded. -/
structure Turn.Ended {κ : Type} (turn : Turn κ) : Prop where
  outcome : turn.outcome?.isSome = true
  sent : ∃ halves, turn.exchange.halves = .ok halves ∧ turn.sent <+: bytesOf halves
    ∧ ∀ heard, turn.outcome? = some (.ok heard) → turn.sent = bytesOf halves

/-- A turn against the phase of its client: what was sent and what is left
make up the bytes of the exchange, unless a half has failed. -/
inductive Underway {κ : Type} (number : Nat) (turn : Turn κ) : Phase → Prop where
  | turning {heard : List String} {halves all : List Half}
      (hall : turn.exchange.halves = .ok all)
      (hsent : turn.sent ++ bytesOf halves = bytesOf all) :
      Underway number turn (.turning number heard halves)
  | writing {heard : List String} {message : String} {left : List UInt8}
      {halves all : List Half} (hall : turn.exchange.halves = .ok all)
      (hsent : turn.sent ++ (left ++ bytesOf halves) = bytesOf all) :
      Underway number turn (.writing number heard message left halves)
  | failing {fault : LinkFault} {all : List Half} (hall : turn.exchange.halves = .ok all)
      (hsent : turn.sent <+: bytesOf all) : Underway number turn (.failing number fault)

variable {κ π : Type}

/-- A client has the lock: it is in the last turn, which has not ended, and
nobody else is in a turn. -/
structure Holds (s : Shared κ π) (client : κ) (done : List (Turn κ)) (turn : Turn κ) :
    Prop where
  holder : s.holder = some client
  others : ∀ other, other ≠ client → (s.phase other).number? = none
  turns : s.turns = done ++ [turn]
  ended : ∀ t ∈ done, t.Ended
  whose : turn.client = client
  unended : turn.outcome? = none
  underway : Underway done.length turn (s.phase client)

/-- The lock is free, or somebody has it. -/
inductive Lock (s : Shared κ π) : Prop where
  | free (hfree : s.holder = none) (hout : ∀ client, (s.phase client).number? = none)
      (hended : ∀ turn ∈ s.turns, turn.Ended)
  | held {client : κ} {done : List (Turn κ)} {turn : Turn κ} (h : Holds s client done turn)

/-- The lock is in order, and so is the stream: behind what was written
before, the bytes of the turns in the order of acquisition. -/
structure Orderly (before : List UInt8) (s : Shared κ π) : Prop where
  written : s.link.written = before ++ s.turns.flatMap Turn.sent
  lock : Lock s

-- ====================================================== who is in a turn

theorem Underway.number {number : Nat} {turn : Turn κ} {phase : Phase}
    (h : Underway number turn phase) : phase.number? = some number := by
  cases h <;> rfl

/-- What was sent in a turn so far is a front of what there is to send. -/
theorem Underway.sent {number : Nat} {turn : Turn κ} {phase : Phase}
    (h : Underway number turn phase) :
    ∃ halves, turn.exchange.halves = .ok halves ∧ turn.sent <+: bytesOf halves := by
  cases h with
  | turning hall hsent => exact ⟨_, hall, _, hsent⟩
  | writing hall hsent => exact ⟨_, hall, _, hsent⟩
  | failing hall hsent => exact ⟨_, hall, hsent⟩

/-- Who is in a turn has the lock, and it is the last turn. -/
theorem Lock.holds [DecidableEq κ] {s : Shared κ π} (h : Lock s) {client : κ} {number : Nat}
    (hnumber : (s.phase client).number? = some number) :
    ∃ done turn, Holds s client done turn ∧ number = done.length := by
  cases h with
  | free hfree hout hended =>
      rw [hout client] at hnumber
      cases hnumber
  | @held holder done turn h =>
      by_cases hsame : client = holder
      · subst hsame
        rw [h.underway.number] at hnumber
        exact ⟨done, turn, h, (Option.some_inj.1 hnumber).symm⟩
      · rw [h.others client hsame] at hnumber
        cases hnumber

/-- The lock is free exactly if every turn has ended. -/
theorem Lock.free_iff {s : Shared κ π} (h : Lock s) :
    s.holder = none ↔ ∀ turn ∈ s.turns, turn.outcome?.isSome = true := by
  cases h with
  | free hfree hout hended =>
      exact ⟨fun _ turn hturn => (hended turn hturn).outcome, fun _ => hfree⟩
  | @held holder done turn h =>
      constructor
      · intro hfree
        rw [h.holder] at hfree
        cases hfree
      · intro hall
        have hlast := hall turn (h.turns ▸ List.mem_append_right _ (List.mem_singleton_self turn))
        rw [h.unended] at hlast
        cases hlast

/-- Each turn has put a front of its exchange's bytes on the stream, and all
of them if it succeeded. -/
theorem Orderly.sent {s : Shared κ π} {before : List UInt8} (h : Orderly before s) {turn : Turn κ}
    (hturn : turn ∈ s.turns) :
    ∃ halves, turn.exchange.halves = .ok halves ∧ turn.sent <+: bytesOf halves
      ∧ ∀ heard, turn.outcome? = some (.ok heard) → turn.sent = bytesOf halves := by
  cases h.lock with
  | free hfree hout hended => exact (hended turn hturn).sent
  | @held client done last hholds =>
      rw [hholds.turns] at hturn
      rcases List.mem_append.1 hturn with hturn | hturn
      · exact (hholds.ended turn hturn).sent
      · obtain rfl := List.mem_singleton.1 hturn
        obtain ⟨halves, hhalves, hfront⟩ := hholds.underway.sent
        refine ⟨halves, hhalves, hfront, fun heard hended => ?_⟩
        rw [hholds.unended] at hended
        cases hended

variable [DecidableEq κ]

/-- No two clients are in a turn, and nobody is in two. -/
theorem Lock.unique {s : Shared κ π} (h : Lock s) {client other : κ} {number number' : Nat}
    (hnumber : (s.phase client).number? = some number)
    (hnumber' : (s.phase other).number? = some number') :
    other = client ∧ number' = number := by
  obtain ⟨done, turn, hholds, rfl⟩ := h.holds hnumber
  obtain ⟨done', turn', hholds', rfl⟩ := h.holds hnumber'
  have hclient : client = other :=
    Option.some_inj.1 (hholds.holder.symm.trans hholds'.holder)
  subst hclient
  exact ⟨rfl, Option.some_inj.1 (hnumber'.symm.trans hnumber)⟩

/-- A turn that somebody is in has not ended. -/
theorem Lock.unended {s : Shared κ π} (h : Lock s) {client : κ} {number : Nat}
    (hnumber : (s.phase client).number? = some number) {turn : Turn κ}
    (hturn : s.turns[number]? = some turn) : turn.outcome? = none := by
  obtain ⟨done, last, hholds, rfl⟩ := h.holds hnumber
  rw [hholds.turns, List.getElem?_append_right (Nat.le_refl _), Nat.sub_self] at hturn
  obtain rfl := Option.some_inj.1 hturn
  exact hholds.unended

theorem overlay_number {phase : κ → Phase} {client : κ} {next : Phase}
    (hnext : next.number? = none) {other : κ} (hother : (phase other).number? = none) :
    (overlay phase client next other).number? = none := by
  unfold overlay
  split
  · exact hnext
  · exact hother

/-- Who is in no turn and comes into none changes nothing about the lock. -/
theorem Lock.become {s : Shared κ π} (h : Lock s) {client : κ} {phase : Phase}
    (hbefore : (s.phase client).number? = none) (hafter : phase.number? = none) :
    Lock (s.become client phase) := by
  cases h with
  | free hfree hout hended =>
      exact .free hfree (fun other => overlay_number hafter (hout other)) hended
  | @held holder done turn h =>
      have hne : holder ≠ client := by
        rintro rfl
        rw [h.underway.number] at hbefore
        cases hbefore
      have hkept : Holds (s.become client phase) holder done turn :=
        { h with
          others := fun other hother => overlay_number hafter (h.others other hother)
          underway := by
            show Underway done.length turn (overlay s.phase client phase holder)
            rw [overlay_other _ _ hne]
            exact h.underway }
      exact .held hkept

-- ====================================================== within one turn

section Turns

variable {s : Shared κ π} {client : κ} {done : List (Turn κ)} {turn : Turn κ}

theorem Holds.become (h : Holds s client done turn) {phase : Phase}
    (hunderway : Underway done.length turn phase) :
    Holds (s.become client phase) client done turn :=
  { h with
    others := fun other hother => by
      show (overlay s.phase client phase other).number? = none
      rw [overlay_other _ _ hother]
      exact h.others other hother
    underway := by
      show Underway done.length turn (overlay s.phase client phase client)
      rw [overlay_same]
      exact hunderway }

theorem modify_last {α : Type} (done : List α) (last : α) (f : α → α) :
    (done ++ [last]).modify done.length f = done ++ [f last] := by
  induction done with
  | nil => rfl
  | cons first rest ih => exact congrArg (first :: ·) ih

omit [DecidableEq κ] in
/-- The bytes taken in a turn go behind all others. -/
theorem Holds.took_written {before : List UInt8} (h : Holds s client done turn)
    (hwritten : s.link.written = before ++ s.turns.flatMap Turn.sent) (chunk : List UInt8) :
    (s.took done.length chunk).link.written
      = before ++ (s.took done.length chunk).turns.flatMap Turn.sent := by
  show s.link.written ++ chunk = before ++ (s.turns.modify done.length _).flatMap Turn.sent
  rw [hwritten, h.turns, modify_last]
  simp [List.flatMap_append]

theorem Holds.took (h : Holds s client done turn) {chunk : List UInt8} {phase : Phase}
    (hunderway : Underway done.length { turn with sent := turn.sent ++ chunk } phase) :
    Holds ((s.took done.length chunk).become client phase) client done
      { turn with sent := turn.sent ++ chunk } where
  holder := h.holder
  others other hother := by
    show (overlay s.phase client phase other).number? = none
    rw [overlay_other _ _ hother]
    exact h.others other hother
  turns := by
    show s.turns.modify done.length _ = _
    rw [h.turns, modify_last]
  ended := h.ended
  whose := h.whose
  unended := h.unended
  underway := by
    show Underway done.length _ (overlay s.phase client phase client)
    rw [overlay_same]
    exact hunderway

theorem Phase.number_of_outcome {phase : Phase} {number : Nat} {outcome : Ending}
    (h : phase.outcome? = some (number, outcome)) : phase.number? = some number := by
  cases phase with
  | turning k heard halves =>
      cases halves with
      | nil =>
          cases h
          rfl
      | cons half rest => cases h
  | failing k fault =>
      cases h
      rfl
  | _ => cases h

omit [DecidableEq κ] in
/-- A turn with nothing left to do has sent what it had to, or has
failed. -/
theorem Underway.ended {number number' : Nat} {phase : Phase} {outcome : Ending}
    (h : Underway number turn phase) (houtcome : phase.outcome? = some (number', outcome)) :
    number' = number ∧ Turn.Ended { turn with outcome? := some outcome } := by
  cases h with
  | @turning heard halves all hall hsent =>
      cases halves with
      | nil =>
          cases houtcome
          have hwhole : turn.sent = bytesOf all := by
            rw [← hsent]
            exact (List.append_nil _).symm
          exact ⟨rfl, rfl, all, hall, hwhole ▸ List.prefix_rfl, fun _ _ => hwhole⟩
      | cons half rest => cases houtcome
  | writing hall hsent => cases houtcome
  | @failing fault all hall hsent =>
      cases houtcome
      exact ⟨rfl, rfl, all, hall, hsent, fun _ h => by cases h⟩

/-- A turn that ends gives the lock back. -/
theorem Holds.released (h : Holds s client done turn) {number : Nat} {outcome : Ending}
    (houtcome : (s.phase client).outcome? = some (number, outcome)) :
    (s.released client number outcome).turns = done ++ [{ turn with outcome? := some outcome }]
      ∧ Lock (s.released client number outcome) := by
  obtain ⟨rfl, hended⟩ := h.underway.ended houtcome
  have hturns : (s.released client done.length outcome).turns
      = done ++ [{ turn with outcome? := some outcome }] := by
    show s.turns.modify done.length _ = _
    rw [h.turns, modify_last]
  refine ⟨hturns, .free rfl (fun other => ?_) fun t ht => ?_⟩
  · show (overlay s.phase client .resting other).number? = none
    by_cases hother : other = client
    · rw [hother, overlay_same]
      rfl
    · rw [overlay_other _ _ hother]
      exact h.others other hother
  · rw [hturns] at ht
    rcases List.mem_append.1 ht with ht | ht
    · exact h.ended t ht
    · rw [List.mem_singleton.1 ht]
      exact hended

end Turns

-- ================================================================= steps

/-- Acquiring a free lock begins a turn with all of its bytes left. -/
theorem Lock.acquired {s : Shared κ π} (h : Lock s) (hfree : s.holder = none) {client : κ}
    {exchange : Exchange} {halves : List Half} (hhalves : exchange.halves = .ok halves) :
    Holds (s.acquired client exchange halves) client s.turns { client, exchange } := by
  cases h with
  | held h =>
      rw [h.holder] at hfree
      cases hfree
  | free _ hout hended =>
      refine ⟨rfl, fun other hother => ?_, rfl, hended, rfl, rfl, ?_⟩
      · show (overlay s.phase client _ other).number? = none
        rw [overlay_other _ _ hother]
        exact hout other
      · show Underway _ _ (overlay s.phase client _ client)
        rw [overlay_same]
        exact .turning hhalves rfl

variable {world : World π} {before : List UInt8}

/-- A step within a turn that sends nothing: the client goes on to another
phase of the same turn. -/
theorem Orderly.onward {s : Shared κ π} (h : Orderly before s) {client : κ} {number : Nat}
    (hnumber : (s.phase client).number? = some number) (link : Transport π)
    (hlink : link.written = s.link.written) {phase : Phase}
    (honward : ∀ {turn : Turn κ}, Underway number turn (s.phase client) →
      Underway number turn phase) :
    Orderly before (Shared.become { s with link } client phase) := by
  obtain ⟨done, turn, hholds, rfl⟩ := h.lock.holds hnumber
  have hlinked : Holds { s with link } client done turn := { hholds with }
  exact ⟨hlink.trans h.written, .held (hlinked.become (honward hholds.underway))⟩

theorem Transport.receive_written {link : Transport π} :
    (∀ {text after}, Transport.receive link = .ok text after → after.written = link.written)
      ∧ ∀ {fault after}, Transport.receive link = .error fault after →
          after.written = link.written := by
  obtain ⟨-, hkeeps⟩ := Transport.receive_keeps link
  constructor
  · intro text after hread
    rw [hread] at hkeeps
    exact hkeeps
  · intro fault after hread
    rw [hread] at hkeeps
    exact hkeeps

/-- Every step keeps the lock and the stream in order. -/
theorem step_orderly {s s' : Shared κ π} (h : Orderly before s) (hstep : Step world s s') :
    Orderly before s' := by
  cases hstep with
  | call hphase hhalves =>
      exact ⟨h.written, h.lock.become (by rw [hphase]; rfl) rfl⟩
  | refuse hphase hhalves => exact h
  | acquire hphase hhalves hfree =>
      refine ⟨?_, .held (h.lock.acquired hfree hhalves)⟩
      show s.link.written = before ++ (s.turns ++ [_]).flatMap Turn.sent
      rw [h.written, List.flatMap_append]
      simp
  | begin hphase =>
      refine h.onward (by rw [hphase]; rfl) _ rfl fun hunderway => ?_
      rw [hphase] at hunderway
      cases hunderway with
      | turning hall hsent => exact .writing hall hsent
  | @take client number heard message chunk left halves hphase =>
      -- the bytes go to the last turn, which is the one that holds the lock
      obtain ⟨done, turn, hholds, rfl⟩ := h.lock.holds
        (show (s.phase client).number? = some number by rw [hphase]; rfl)
      have hunderway := hholds.underway
      rw [hphase] at hunderway
      cases hunderway with
      | writing hall hsent =>
          refine ⟨hholds.took_written h.written chunk, .held (hholds.took (.writing hall ?_))⟩
          show turn.sent ++ chunk ++ _ = _
          rw [← hsent, List.append_assoc, List.append_assoc]
  | @flush client number heard message halves hphase =>
      refine h.onward (by rw [hphase]; rfl)
        { s.link with stats := s.link.stats.sent (Frame.ofMessage message) } rfl fun hunderway => ?_
      rw [hphase] at hunderway
      cases hunderway with
      | writing hall hsent => exact .turning hall hsent
  | cut reason hphase =>
      refine h.onward (by rw [hphase]; rfl)
        { s.link with stats := reason.count s.link.stats } rfl fun hunderway => ?_
      rw [hphase] at hunderway
      cases hunderway with
      | writing hall hsent => exact .failing hall ⟨_, hsent⟩
  | read hphase hread =>
      refine h.onward (by rw [hphase]; rfl) _ (Transport.receive_written.1 hread)
        fun hunderway => ?_
      rw [hphase] at hunderway
      cases hunderway with
      | turning hall hsent => exact .turning hall hsent
  | readFails hphase hread =>
      refine h.onward (by rw [hphase]; rfl) _ (Transport.receive_written.2 hread)
        fun hunderway => ?_
      rw [hphase] at hunderway
      cases hunderway with
      | turning hall hsent => exact .failing hall ⟨_, hsent⟩
  | @release client number outcome hphase =>
      obtain ⟨done, turn, hholds, rfl⟩ := h.lock.holds (Phase.number_of_outcome hphase)
      obtain ⟨hturns, hlock⟩ := hholds.released hphase
      refine ⟨?_, hlock⟩
      rw [hturns, show (s.released client done.length outcome).link = s.link from rfl, h.written,
        hholds.turns, List.flatMap_append, List.flatMap_append]
      rfl
  | world hworld =>
      exact ⟨h.written, match h.lock with
        | .free hfree hout hended => .free hfree hout hended
        | .held hholds => .held { hholds with }⟩

/-- A transport that nobody uses yet. -/
def Shared.fresh (link : Transport π) : Shared κ π := { link }

omit [DecidableEq κ] in
theorem fresh_orderly (link : Transport π) :
    Orderly link.written (Shared.fresh link : Shared κ π) where
  written := (List.append_nil _).symm
  lock := .free rfl (fun _ => rfl) fun _ hturn => absurd hturn List.not_mem_nil

/-- However the steps interleave, the lock and the stream are in order. -/
theorem steps_orderly {s s' : Shared κ π} (hsteps : Steps world s s') (h : Orderly before s) :
    Orderly before s' := by
  induction hsteps with
  | refl => exact h
  | tail _ hstep ih => exact step_orderly ih hstep

-- ===================================================== seen from a turn

/-- What a step is to the client in a turn: one of its own, up to the point
where only giving back the lock is left, or one of the far end, or none of
its business. -/
inductive Within (world : World π) (number : Nat) :
    Transport π → Phase → Transport π → Phase → Prop where
  | elsewhere {link : Transport π} {phase : Phase} : Within world number link phase link phase
  | begin {link : Transport π} {heard : List String} {message : String} {halves : List Half} :
      Within world number link (.turning number heard (.write message :: halves))
        link (.writing number heard message (Frame.ofMessage message).bytes halves)
  | take {link : Transport π} {heard : List String} {message : String}
      {chunk left : List UInt8} {halves : List Half} :
      Within world number link (.writing number heard message (chunk ++ left) halves)
        { link with written := link.written ++ chunk } (.writing number heard message left halves)
  | flush {link : Transport π} {heard : List String} {message : String} {halves : List Half}
      {stats : Stats} :
      Within world number link (.writing number heard message [] halves)
        { link with stats } (.turning number heard halves)
  | read {link after : Transport π} {heard : List String} {text : String} {halves : List Half}
      (hread : Transport.receive link = .ok text after) :
      Within world number link (.turning number heard (.read :: halves))
        after (.turning number (heard ++ [text]) halves)
  | fails {link after : Transport π} {phase : Phase} {fault : LinkFault} :
      Within world number link phase after (.failing number fault)
  | world {link : Transport π} {phase : Phase} {arrivals : List Arrival} {peer : π}
      (hworld : world link.written link.peer arrivals peer) :
      Within world number link phase
        { link with peer, inbox := link.inbox ++ arrivals } phase

theorem become_phase (s : Shared κ π) (client : κ) (phase : Phase) :
    (s.become client phase).phase client = phase := overlay_same ..

/-- While a client is in a turn every step is within the turn, or it ends
the turn. -/
theorem step_within {s s' : Shared κ π} (h : Lock s) {client : κ} {number : Nat}
    (hnumber : (s.phase client).number? = some number) (hstep : Step world s s') :
    Within world number s.link (s.phase client) s'.link (s'.phase client)
      ∨ ∃ outcome, (s.phase client).outcome? = some (number, outcome)
        ∧ s' = s.released client number outcome := by
  -- who takes a step of a turn is this client, in this turn
  have hsame : ∀ {other : κ} {phase : Phase} {number' : Nat}, s.phase other = phase →
      phase.number? = some number' → other = client ∧ number' = number :=
    fun hphase hnumber' => h.unique hnumber (hphase ▸ hnumber')
  cases hstep with
  | @call other exchange halves hphase hhalves =>
      have hne : client ≠ other := by
        rintro rfl
        rw [hphase] at hnumber
        cases hnumber
      left
      rw [show (s.become other (.waiting exchange)).phase client = s.phase client from
        overlay_other _ _ hne]
      exact .elsewhere
  | refuse hphase hhalves => exact .inl .elsewhere
  | acquire hphase hhalves hfree =>
      obtain ⟨done, turn, hholds, -⟩ := h.holds hnumber
      rw [hholds.holder] at hfree
      cases hfree
  | begin hphase =>
      obtain ⟨rfl, rfl⟩ := hsame hphase rfl
      left
      rw [hphase, become_phase]
      exact .begin
  | take hphase =>
      obtain ⟨rfl, rfl⟩ := hsame hphase rfl
      left
      rw [hphase, become_phase]
      exact .take
  | flush hphase =>
      obtain ⟨rfl, rfl⟩ := hsame hphase rfl
      left
      rw [hphase, become_phase]
      exact .flush
  | cut reason hphase =>
      obtain ⟨rfl, rfl⟩ := hsame hphase rfl
      left
      rw [become_phase]
      exact .fails
  | read hphase hread =>
      obtain ⟨rfl, rfl⟩ := hsame hphase rfl
      left
      rw [hphase, become_phase]
      exact .read hread
  | readFails hphase hread =>
      obtain ⟨rfl, rfl⟩ := hsame hphase rfl
      left
      rw [become_phase]
      exact .fails
  | release hphase =>
      obtain ⟨rfl, rfl⟩ := h.unique hnumber (Phase.number_of_outcome hphase)
      exact .inr ⟨_, hphase, rfl⟩
  | world hworld => exact .inl (.world hworld)

-- ====================================================== giving it back

/-- In the step in which a turn ends, the lock is given back. -/
theorem step_frees {s s' : Shared κ π} (hstep : Step world s s') {number : Nat}
    {turn turn' : Turn κ} (hturn : s.turns[number]? = some turn) (hunended : turn.outcome? = none)
    (hturn' : s'.turns[number]? = some turn') (hended : turn'.outcome?.isSome = true) :
    s'.holder = none := by
  have hsame : s'.turns[number]? = some turn → s'.holder = none := by
    intro hkept
    rw [hkept] at hturn'
    obtain rfl := Option.some_inj.1 hturn'
    rw [hunended] at hended
    cases hended
  cases hstep with
  | release hphase => rfl
  | acquire hphase hhalves hfree =>
      exact hsame (List.getElem?_append_left (List.getElem?_eq_some_iff.1 hturn).1 ▸ hturn)
  | @take client number' heard message chunk left halves hphase =>
      change (s.turns.modify number' _)[number]? = some turn' at hturn'
      rw [List.getElem?_modify, hturn] at hturn'
      obtain rfl := Option.some_inj.1 hturn'
      split at hended
      · rw [show Turn.outcome? _ = turn.outcome? from rfl, hunended] at hended
        cases hended
      · rw [hunended] at hended
        cases hended
  | _ => exact hsame hturn

section GivingBack

variable (world) {s : Shared κ π} {client : κ} {number : Nat}

/-- A turn in which something has failed can end. -/
theorem failing_ends {fault : LinkFault} (hphase : s.phase client = .failing number fault) :
    ∃ s', Steps world s s' ∧ s'.holder = none :=
  ⟨_, .single (.release (by rw [hphase]; rfl)), rfl⟩

theorem writing_ends {heard : List String} {message : String} {left : List UInt8}
    {halves : List Half} (hphase : s.phase client = .writing number heard message left halves) :
    ∃ s', Steps world s s' ∧ s'.holder = none := by
  obtain ⟨s', hsteps, hfree⟩ := failing_ends world (become_phase
    (s.counted (Cut.blocked.count s.link.stats)) client (.failing number (.timeout s.link.limit)))
  exact ⟨s', hsteps.head (.cut .blocked hphase), hfree⟩

/-- Between two halves too, whatever the halves that are left come to. -/
theorem turning_ends (halves : List Half) :
    ∀ {s : Shared κ π} {heard : List String}, s.phase client = .turning number heard halves →
      ∃ s', Steps world s s' ∧ s'.holder = none := by
  induction halves with
  | nil =>
      intro s heard hphase
      exact ⟨_, .single (.release (by rw [hphase]; rfl)), rfl⟩
  | cons half rest ih =>
      intro s heard hphase
      cases half with
      | write message =>
          obtain ⟨s', hsteps, hfree⟩ := writing_ends world (become_phase s client
            (.writing number heard message (Frame.ofMessage message).bytes rest))
          exact ⟨s', hsteps.head (.begin hphase), hfree⟩
      | read =>
          cases hread : Transport.receive s.link with
          | ok text link =>
              obtain ⟨s', hsteps, hfree⟩ := ih (become_phase { s with link } client _)
              exact ⟨s', hsteps.head (.read hphase hread), hfree⟩
          | error fault link =>
              obtain ⟨s', hsteps, hfree⟩ := failing_ends world
                (become_phase { s with link } client (.failing number fault))
              exact ⟨s', hsteps.head (.readFails hphase hread), hfree⟩

/-- Whoever has the lock can give it back, without anybody else. -/
theorem Lock.given_back (h : Lock s) : ∃ s', Steps world s s' ∧ s'.holder = none := by
  cases h with
  | free hfree hout hended => exact ⟨s, .refl, hfree⟩
  | @held client done turn hholds =>
      have hunderway := hholds.underway
      generalize hphase : s.phase client = phase at hunderway
      cases hunderway with
      | turning hall hsent => exact turning_ends world _ hphase
      | writing hall hsent => exact writing_ends world hphase
      | failing hall hsent => exact failing_ends world hphase

end GivingBack

-- =============================================================== history

/-- Turns that came from others: each is for the same, and those that had
ended are as they were. -/
def Grown (old new : List (Turn κ)) : Prop :=
  ∀ (number : Nat) (turn : Turn κ), old[number]? = some turn →
    ∃ turn' : Turn κ, new[number]? = some turn' ∧ turn'.client = turn.client
      ∧ turn'.exchange = turn.exchange ∧ (turn.outcome?.isSome = true → turn' = turn)

omit [DecidableEq κ] in
theorem Grown.refl (turns : List (Turn κ)) : Grown turns turns :=
  fun _ _ h => ⟨_, h, rfl, rfl, fun _ => rfl⟩

omit [DecidableEq κ] in
theorem Grown.trans {old between new : List (Turn κ)} (h : Grown old between)
    (h' : Grown between new) : Grown old new := by
  intro number turn hturn
  obtain ⟨turn', hturn', hclient, hexchange, hended⟩ := h number turn hturn
  obtain ⟨turn'', hturn'', hclient', hexchange', hended'⟩ := h' number turn' hturn'
  refine ⟨turn'', hturn'', hclient'.trans hclient, hexchange'.trans hexchange, fun hends => ?_⟩
  obtain rfl := hended hends
  exact hended' hends

omit [DecidableEq κ] in
theorem grown_append (turns more : List (Turn κ)) : Grown turns (turns ++ more) :=
  fun _ _ h => ⟨_, List.getElem?_append_left (List.getElem?_eq_some_iff.1 h).1 ▸ h, rfl, rfl,
    fun _ => rfl⟩

omit [DecidableEq κ] in
/-- The turn that has not ended may become another one for the same. -/
theorem grown_last {done : List (Turn κ)} {turn turn' : Turn κ}
    (hunended : turn.outcome? = none) (hclient : turn'.client = turn.client)
    (hexchange : turn'.exchange = turn.exchange) :
    Grown (done ++ [turn]) (done ++ [turn']) := by
  intro number t ht
  rw [List.getElem?_append] at ht
  split at ht
  · rename_i hlt
    exact ⟨t, by rw [List.getElem?_append_left hlt, ht], rfl, rfl, fun _ => rfl⟩
  · rename_i hge
    obtain ⟨hzero, rfl⟩ : number - done.length = 0 ∧ turn = t := by
      simpa [List.getElem?_singleton] using ht
    refine ⟨turn', ?_, hclient, hexchange, fun hended => ?_⟩
    · rw [List.getElem?_append_right (Nat.not_lt.1 hge), hzero]
      rfl
    · rw [hunended] at hended
      cases hended

theorem step_grown {s s' : Shared κ π} (h : Lock s) (hstep : Step world s s') :
    Grown s.turns s'.turns := by
  cases hstep with
  | acquire => exact grown_append _ _
  | @take client number heard message chunk left halves hphase =>
      obtain ⟨done, turn, hholds, rfl⟩ := h.holds
        (show (s.phase client).number? = some number by rw [hphase]; rfl)
      show Grown s.turns (s.turns.modify done.length _)
      rw [hholds.turns, modify_last]
      exact grown_last hholds.unended rfl rfl
  | @release client number outcome hphase =>
      obtain ⟨done, turn, hholds, rfl⟩ := h.holds (Phase.number_of_outcome hphase)
      rw [(hholds.released hphase).1, hholds.turns]
      exact grown_last hholds.unended rfl rfl
  | _ => exact Grown.refl _

/-- No step forgets a turn, or changes one that has ended. -/
theorem steps_grown {s s' : Shared κ π} (hsteps : Steps world s s') (h : Orderly before s) :
    Grown s.turns s'.turns := by
  induction hsteps with
  | refl => exact Grown.refl _
  | tail hsteps hstep ih => exact ih.trans (step_grown (steps_orderly hsteps h).lock hstep)

/-- Whatever comes after an acquisition, the turn follows on the turns
before it. -/
theorem turn_of_acquired {s s' : Shared κ π} (h : Orderly before s) (hfree : s.holder = none)
    {client : κ} {exchange : Exchange} {halves : List Half}
    (hhalves : exchange.halves = .ok halves)
    (hsteps : Steps world (s.acquired client exchange halves) s') :
    ∃ turn rest, s'.turns = s.turns ++ turn :: rest ∧ turn.client = client
      ∧ turn.exchange = exchange := by
  have hacquired : Orderly before (s.acquired client exchange halves) := by
    refine ⟨?_, .held (h.lock.acquired hfree hhalves)⟩
    show s.link.written = before ++ (s.turns ++ [_]).flatMap Turn.sent
    rw [h.written, List.flatMap_append]
    simp
  have hgrown := steps_grown hsteps hacquired
  have hprefix : s.turns <+: s'.turns := by
    rw [List.prefix_iff_getElem?]
    intro number hlt
    have hturn : (s.acquired client exchange halves).turns[number]? = some s.turns[number] := by
      show (s.turns ++ [_])[number]? = _
      rw [List.getElem?_append_left hlt, List.getElem?_eq_getElem hlt]
    obtain ⟨turn', hturn', -, -, hended⟩ := hgrown _ _ hturn
    rw [hturn', hended ((h.lock.free_iff).1 hfree _ (List.getElem_mem hlt))]
  obtain ⟨tail, htail⟩ := hprefix
  have hnew : (s.acquired client exchange halves).turns[s.turns.length]?
      = some { client, exchange } := by
    show (s.turns ++ [_])[s.turns.length]? = _
    rw [List.getElem?_append_right (Nat.le_refl _), Nat.sub_self]
    rfl
  obtain ⟨turn, hturn, hclient, hexchange, -⟩ := hgrown _ _ hnew
  rw [← htail, List.getElem?_append_right (Nat.le_refl _), Nat.sub_self] at hturn
  cases tail with
  | nil => cases hturn
  | cons first rest =>
      obtain rfl : first = turn := Option.some_inj.1 hturn
      exact ⟨first, rest, htail.symm, hclient, hexchange⟩

end SerialEndpoint
