/-
Runs of exchanges, taken apart. An exchange is carried out half by half, up
to the first half that fails; every half that was carried out is a trial,
with a result of its own (`Visit.trials`). An exchange ends as its trials
do (`ending_eq`).

# What a half does

What a half does to the transport is said once, with one case for every way
in which a write or a read can end (`Half.Does`): how it ended, what is begun
behind it, and which of the counters has gone up. A write is sent or cut off.
A read gives a line, or the last line of a stream without its end; or it
finds the link closed, or fails, or has waited in vain. Nobody needs to look
into `send` or `receive` after that.

# Adding up

A counter is a number at the link, and what it should be is a total over the
trials. `Tallies` says that each trial raises the number by what it adds to
the total. By induction on the halves, and then on the exchanges, the number
has gone up by the total of all trials after any run (`Tallies.callEach`).
The statistics and the lines that come in are counted in this way, each with
a proof about one half.
-/
import SerialEndpoint.Proofs.Link.Receiving

namespace SerialEndpoint

variable {π : Type} [Peer π]

-- =============================================================== trials

/-- A half that was carried out, and the link that it found. -/
structure Trial (π : Type) where
  half : Half
  before : Transport π

namespace Trial

/-- How the half ended. -/
def ending (trial : Trial π) : Ending := endingOf (trial.half.perform trial.before)

/-- The link that the half left. -/
def after (trial : Trial π) : Transport π := stateAfter (trial.half.perform trial.before)

end Trial

/-- The trials of some halves: those up to the first that fails. -/
def trialsOf : List Half → Transport π → List (Trial π)
  | [], _ => []
  | half :: rest, link => ⟨half, link⟩ :: match half.perform link with
    | .ok _ between => trialsOf rest between
    | .error _ _ => []

/-- An exchange that was made, and the link that it found. -/
structure Visit (π : Type) where
  exchange : Exchange
  before : Transport π

namespace Visit

/-- How the exchange ended. -/
def ending (visit : Visit π) : Ending := endingOf (visit.exchange.perform visit.before)

/-- The halves of the exchange that were carried out; none, if it was
refused. -/
def trials (visit : Visit π) : List (Trial π) :=
  match visit.exchange.halves with
  | .ok halves => trialsOf halves visit.before
  | .error _ => []

end Visit

/-- Some exchanges that are made one after the other, whether or not they
succeed. -/
def visits : List Exchange → Transport π → List (Visit π)
  | [], _ => []
  | exchange :: rest, link =>
    ⟨exchange, link⟩ :: visits rest (stateAfter (exchange.perform link))

/-- All halves that were carried out in some exchanges. -/
def trialsIn (exchanges : List Exchange) (link : Transport π) : List (Trial π) :=
  (visits exchanges link).flatMap Visit.trials

/-- Calls end as their visits do. -/
theorem callEach_endings (exchanges : List Exchange) (link : Transport π) :
    (callEach exchanges link).1 = (visits exchanges link).map Visit.ending := by
  induction exchanges generalizing link with
  | nil => rfl
  | cons exchange rest ih => exact congrArg _ (ih _)

-- ============================================================== endings

/-- How an exchange ends whose halves ended in a certain way: with all that
was heard, or with the first fault. -/
def joined : List Ending → Ending
  | [] => .ok []
  | .ok heard :: rest => (heard ++ ·) <$> joined rest
  | .error fault :: _ => .error fault

/-- Behind a half that fails there are no trials. -/
theorem endings_cons (half : Half) (rest : List Half) (link : Transport π) :
    (trialsOf (half :: rest) link).map Trial.ending = match half.perform link with
      | .ok heard between => .ok heard :: (trialsOf rest between).map Trial.ending
      | .error fault _ => [.error fault] := by
  rw [trialsOf, List.map_cons, Trial.ending]
  cases half.perform link <;> rfl

theorem performAll_ending (halves : List Half) (link : Transport π) :
    endingOf (performAll halves link) = joined ((trialsOf halves link).map Trial.ending) := by
  induction halves generalizing link with
  | nil => rfl
  | cons half rest ih =>
      rw [performAll_cons_run, endings_cons]
      cases half.perform link with
      | error fault after => rfl
      | ok heard between =>
          simp only [joined]
          rw [← ih between]
          cases performAll rest between <;> rfl

/-- An exchange ends as its trials do, unless it was refused. -/
theorem ending_eq (visit : Visit π) :
    visit.ending = match visit.exchange.halves with
      | .ok _ => joined (visit.trials.map Trial.ending)
      | .error fault => .error fault := by
  unfold Visit.ending Visit.trials
  rw [perform_eq]
  cases visit.exchange.halves with
  | error fault => rfl
  | ok halves => exact performAll_ending halves visit.before

-- ============================================================ one half

/-- What a half does to the link that it finds, and how it ends. -/
inductive Half.Does (link : Transport π) : Half → Ending → Transport π → Prop where
  | sent {message : String} {after : Transport π} (hbegun : after.begun = link.begun)
      (hstats : after.stats = link.stats.sent (Frame.ofMessage message)) :
      Does link (.write message) (.ok []) after
  | cut {message : String} {after : Transport π} (reason : Cut)
      (hbegun : after.begun = link.begun) (hstats : after.stats = reason.count link.stats) :
      Does link (.write message) (.error (reason.fault link.limit)) after
  | line {bytes : List UInt8} {inbox : List Arrival}
      (hread : readLine link.begun link.inbox = ⟨.line bytes, [], inbox⟩) :
      Does link .read (.ok [Utf8.decodeLossy bytes])
        { link with begun := [], inbox, stats := link.stats.received bytes }
  /-- A line without its line end, at the end of the stream. -/
  | last {begun : List UInt8} {inbox : List Arrival}
      (hread : readLine link.begun link.inbox = ⟨.theEnd, begun, inbox⟩) (hsome : begun ≠ []) :
      Does link .read (.ok [Utf8.decodeLossy begun])
        { link with begun := [], inbox, stats := link.stats.received begun }
  | closed {inbox : List Arrival}
      (hread : readLine link.begun link.inbox = ⟨.theEnd, [], inbox⟩) :
      Does link .read (.error .closed)
        { link with begun := [], inbox, stats := link.stats.failed }
  | failed {fault : Fault} {begun : List UInt8} {inbox : List Arrival}
      (hread : readLine link.begun link.inbox = ⟨.failure fault, begun, inbox⟩) :
      Does link .read (.error (.stream fault))
        { link with begun, inbox, stats := link.stats.failed }
  | waited {begun : List UInt8} {inbox : List Arrival}
      (hread : readLine link.begun link.inbox = ⟨.silence, begun, inbox⟩) :
      Does link .read (.error (.timeout link.limit))
        { link with begun, inbox, stats := link.stats.timedOut }

theorem write_does (message : String) (link : Transport π) :
    let result := (Half.write message).perform link
    Half.Does link (.write message) (endingOf result) (stateAfter result) := by
  intro result
  have hresult : result = _ := perform_write_run message link
  rw [hresult, Transport.send_run]
  simp only
  rcases (Peer.offer link.peer (Frame.ofMessage message).bytes).uptake with
    _ | ⟨taken, fault | _⟩
  · exact .sent rfl rfl
  · exact .cut (.failed fault) rfl rfl
  · exact .cut .blocked rfl rfl

theorem read_does (link : Transport π) :
    let result := Half.read.perform link
    Half.Does link .read (endingOf result) (stateAfter result) := by
  intro result
  have hresult : result = _ := perform_read_run link
  have hreads := readLine_reads link.begun link.inbox
  rw [hresult, Transport.receive_run]
  cases hread : readLine link.begun link.inbox with
  | mk outcome begun inbox =>
      rw [hread] at hreads
      cases outcome with
      | line bytes =>
          obtain rfl : begun = [] := (hreads.line rfl).1
          exact .line hread
      | theEnd =>
          by_cases hnone : begun = []
          · subst hnone
            exact .closed hread
          · simp only [if_neg hnone]
            exact .last hread hnone
      | failure fault => exact .failed hread
      | silence => exact .waited hread

theorem Trial.does (trial : Trial π) : trial.half.Does trial.before trial.ending trial.after := by
  obtain ⟨half, before⟩ := trial
  cases half with
  | write message => exact write_does message before
  | read => exact read_does before

-- ============================================================== tallies

/-- A number at a link that goes up, with every half that is carried out,
by what that half adds to a total of trials. -/
structure Tallies (number : Transport π → Nat) (total : List (Trial π) → Nat) : Prop where
  append (trials more : List (Trial π)) : total (trials ++ more) = total trials + total more
  each (trial : Trial π) : number trial.after = number trial.before + total [trial]

section Tallies

variable {number : Transport π → Nat} {total : List (Trial π) → Nat} (h : Tallies number total)

include h

theorem Tallies.nil : total [] = 0 := by
  have hnothing := h.append [] []
  rw [List.append_nil] at hnothing
  omega

theorem Tallies.performAll (halves : List Half) (link : Transport π) :
    number (stateAfter (performAll halves link)) = number link + total (trialsOf halves link) := by
  induction halves generalizing link with
  | nil =>
      rw [trialsOf, h.nil]
      rfl
  | cons half rest ih =>
      have hfirst := h.each ⟨half, link⟩
      rw [performAll_cons_run, trialsOf, ← List.singleton_append, h.append]
      unfold Trial.after at hfirst
      cases hrun : half.perform link with
      | error fault after =>
          rw [hrun] at hfirst
          simp only
          rw [h.nil]
          exact hfirst
      | ok heard between =>
          rw [hrun] at hfirst
          have hrest := ih between
          simp only [stateAfter] at hfirst hrest ⊢
          cases hmore : SerialEndpoint.performAll rest between with
          | error fault after =>
              rw [hmore] at hrest
              simp only at hrest ⊢
              omega
          | ok more after =>
              rw [hmore] at hrest
              simp only at hrest ⊢
              omega

theorem Tallies.perform (visit : Visit π) :
    number (stateAfter (visit.exchange.perform visit.before))
      = number visit.before + total visit.trials := by
  unfold Visit.trials
  rw [perform_eq]
  cases visit.exchange.halves with
  | error fault => exact congrArg (number visit.before + ·) h.nil.symm
  | ok halves => exact h.performAll halves visit.before

/-- After a run the number has gone up by the total of its trials. -/
theorem Tallies.callEach (exchanges : List Exchange) (link : Transport π) :
    number (callEach exchanges link).2 = number link + total (trialsIn exchanges link) := by
  induction exchanges generalizing link with
  | nil => exact congrArg (number link + ·) h.nil.symm
  | cons exchange rest ih =>
      have hfirst : number (stateAfter (exchange.perform link))
          = number link + total (Visit.trials ⟨exchange, link⟩) := h.perform ⟨exchange, link⟩
      have hrest := ih (stateAfter (exchange.perform link))
      have htotal : total (trialsIn (exchange :: rest) link)
          = total (Visit.trials ⟨exchange, link⟩)
            + total (trialsIn rest (stateAfter (exchange.perform link))) := by
        rw [← h.append]
        rfl
      show number (SerialEndpoint.callEach rest (stateAfter (exchange.perform link))).2 = _
      omega

end Tallies

end SerialEndpoint
