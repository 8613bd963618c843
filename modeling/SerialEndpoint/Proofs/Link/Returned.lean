/-
Lines that come in, and what becomes of them. A read that completes a line
takes it off the stream for good; the line is then the client's, or nobody's
(`returned_lines`).

# One operation

The lines that are completed in an operation are those of its trials. They
are returned if all halves succeed. If one fails, the operation returns
nothing, and has completed a line only if the first half was a read: behind a
write nothing was heard yet (`heard_behind_write`), and a half alone that
fails has completed nothing (`heard_alone`). So in every case the lines that
are completed are those that are returned and, where a read succeeds and its
follow-up fails, the one line that is dropped (`heard_visit`).

# A run

Of a run this holds piece by piece, and the pieces stand in order. What is
returned is thus a part of what was completed, with the lines dropped taken
out, and it is all of it exactly if nothing is dropped (`kept_eq_iff`). That
nothing is dropped is said of the operations themselves: no follow-up fails
behind a line that was read (`dropped_eq_nil_iff`).
-/
import Mathlib.Data.List.Flatten
import SerialEndpoint.Proofs.Link.Trials

namespace SerialEndpoint

variable {π : Type} [Peer π]

-- ================================================================ lines

/-- The line that a half has completed, if it has: the text that it was
read as. -/
def Trial.heard (trial : Trial π) : List String := heardIn trial.ending

/-- The line that an operation has completed and does not return: its first
half has read it, and its second half has failed. -/
def Visit.dropped (visit : Visit π) : List String :=
  match visit.exchange with
  | .receiveThen followUp => match Transport.receive visit.before with
    | .ok text between => match Transport.follow followUp between with
      | .ok _ _ => []
      | .error _ _ => [text]
    | .error _ _ => []
  | _ => []

/-- Nothing is dropped exactly if no follow-up fails behind a line that was
read. -/
theorem dropped_eq_nil_iff (visit : Visit π) :
    visit.dropped = [] ↔ ∀ followUp text between, visit.exchange = .receiveThen followUp →
      Transport.receive visit.before = .ok text between →
      ∃ reply after, Transport.follow followUp between = .ok reply after := by
  unfold Visit.dropped
  constructor
  · intro hnone followUp text between hexchange hread
    rw [hexchange] at hnone
    simp only [hread] at hnone
    cases hfollow : Transport.follow followUp between with
    | ok reply after => exact ⟨reply, after, rfl⟩
    | error fault after =>
        rw [hfollow] at hnone
        cases hnone
  · intro hall
    split
    · rename_i followUp hexchange
      cases hread : Transport.receive visit.before with
      | error fault between => rfl
      | ok text between =>
          obtain ⟨reply, after, hfollow⟩ := hall followUp text between hexchange hread
          simp only [hfollow]
    · rfl

/-- A half completes a line exactly if it adds one to the lines received. -/
theorem tallies_heard :
    Tallies (π := π) (fun link => link.stats.messagesReceived)
      (fun trials => (trials.flatMap Trial.heard).length) where
  append trials more := by rw [List.flatMap_append, List.length_append]
  each trial := by
    have hdoes := trial.does
    rw [List.flatMap_singleton]
    unfold Trial.heard
    generalize trial.half = half, trial.ending = ending, trial.after = after at hdoes ⊢
    cases hdoes with
    | sent hbegun hstats => rw [hstats]; rfl
    | cut reason hbegun hstats =>
        rw [hstats]
        cases reason <;> rfl
    | line hread => rfl
    | last hread hsome => rfl
    | closed hread => rfl
    | failed hread => rfl
    | waited hread => rfl

-- =========================================================== operations

/-- A follow-up as a half of an operation. -/
theorem half_followUp_run (followUp : FollowUp) (link : Transport π) :
    followUp.half.perform link = match Transport.follow followUp link with
      | .ok reply after => .ok reply.toList after
      | .error fault after => .error fault after := by
  refine Eq.trans ?_ (perform_followUp followUp link)
  rw [performAll_cons_run]
  cases followUp.half.perform link with
  | error fault after => rfl
  | ok heard after =>
      simp only [performAll, pure_run, List.append_nil]

theorem heard_endings (trials : List (Trial π)) :
    trials.flatMap Trial.heard = (trials.map Trial.ending).flatMap heardIn := by
  rw [List.flatMap_map]
  rfl

/-- In two halves a line is dropped if the first half has completed it and
the second one fails. -/
theorem heard_pair (first second : Half) (link : Transport π) :
    (trialsOf [first, second] link).flatMap Trial.heard
      = heardIn (joined ((trialsOf [first, second] link).map Trial.ending))
        ++ match first.perform link with
          | .ok heard between => match second.perform between with
            | .ok _ _ => []
            | .error _ _ => heard
          | .error _ _ => [] := by
  rw [heard_endings, endings_cons]
  cases first.perform link with
  | error fault after => rfl
  | ok heard between =>
      simp only
      rw [endings_cons]
      cases second.perform between with
      | error fault after => exact List.append_nil heard
      | ok more after => exact (List.append_nil _).symm

/-- A half alone drops nothing. -/
theorem heard_alone (half : Half) (link : Transport π) :
    (trialsOf [half] link).flatMap Trial.heard
      = heardIn (joined ((trialsOf [half] link).map Trial.ending)) := by
  rw [heard_endings, endings_cons]
  cases half.perform link <;> rfl

/-- Behind a write nothing is dropped. -/
theorem heard_behind_write (message : String) (second : Half) (link : Transport π) :
    (trialsOf [.write message, second] link).flatMap Trial.heard
      = heardIn (joined ((trialsOf [.write message, second] link).map Trial.ending)) := by
  rw [heard_pair, perform_write_run]
  cases Transport.send message link with
  | error fault after => exact List.append_nil _
  | ok done between =>
      simp only
      cases second.perform between <;> exact List.append_nil _

/-- The lines that are completed in an operation are those that it returns
and the one that it drops. -/
theorem heard_visit (visit : Visit π) :
    visit.trials.flatMap Trial.heard = heardIn visit.ending ++ visit.dropped := by
  obtain ⟨exchange, link⟩ := visit
  rw [ending_eq]
  unfold Visit.trials Visit.dropped
  cases exchange with
  | send message =>
      simp only [Exchange.halves, List.append_nil]
      exact heard_alone _ link
  | receive =>
      simp only [Exchange.halves, List.append_nil]
      exact heard_alone _ link
  | sendThen message followUp =>
      simp only [Exchange.halves, List.append_nil]
      exact heard_behind_write message _ link
  | receiveThen followUp =>
      simp only [Exchange.halves]
      rw [heard_pair, perform_read_run]
      cases Transport.receive link with
      | error fault between => rfl
      | ok text between =>
          simp only [half_followUp_run]
          cases Transport.follow followUp between <;> rfl
  | sendThenNamed message name argument =>
      simp only [Exchange.halves, List.append_nil]
      cases FollowUp.named name argument with
      | error fault => rfl
      | ok followUp => exact heard_behind_write message _ link

-- ================================================================= runs

theorem kept_sublist {α β : Type} (items : List α) (kept more : α → List β) :
    (items.flatMap kept).Sublist (items.flatMap fun item => kept item ++ more item) :=
  .flatMap_right items fun item _ => List.sublist_append_left (kept item) (more item)

/-- Pieces with more between them are the pieces alone exactly if that is
nothing. -/
theorem kept_eq_iff {α β : Type} (items : List α) (kept more : α → List β) :
    items.flatMap kept = items.flatMap (fun item => kept item ++ more item) ↔
      ∀ item ∈ items, more item = [] := by
  induction items with
  | nil => simp
  | cons item rest ih =>
      rw [List.forall_mem_cons, ← ih, List.flatMap_cons, List.flatMap_cons, List.append_assoc,
        List.append_cancel_left_eq]
      constructor
      · intro hsame
        have hlength := congrArg List.length hsame
        have hless := (kept_sublist rest kept more).length_le
        rw [List.length_append] at hlength
        have hnone : more item = [] := List.length_eq_zero_iff.1 (by omega)
        rw [hnone, List.nil_append] at hsame
        exact ⟨hnone, hsame⟩
      · rintro ⟨hnone, hsame⟩
        rw [hnone, hsame, List.nil_append]

/-- The lines that are completed in any operations, one after the other, and
with whatever failures, are those that the operations return and, each in
its place, those that they drop. So they are all returned, in order, exactly
if no operation fails behind a line that it has read. -/
theorem returned_lines (exchanges : List Exchange) (link : Transport π) :
    let run := callEach exchanges link
    let made := visits exchanges link
    let completed := (trialsIn exchanges link).flatMap Trial.heard
    let returned := run.1.flatMap heardIn
    run.2.stats.messagesReceived = link.stats.messagesReceived + completed.length
      ∧ completed = made.flatMap (fun visit => heardIn visit.ending ++ visit.dropped)
      ∧ returned = made.flatMap (fun visit => heardIn visit.ending)
      ∧ returned.Sublist completed
      ∧ (returned = completed ↔ ∀ visit ∈ made, ∀ followUp text between,
          visit.exchange = .receiveThen followUp →
          Transport.receive visit.before = .ok text between →
          ∃ reply after, Transport.follow followUp between = .ok reply after) := by
  intro run made completed returned
  have hcompleted : completed
      = made.flatMap fun visit => heardIn visit.ending ++ visit.dropped := by
    unfold completed trialsIn
    rw [List.flatMap_assoc]
    exact List.flatMap_congr fun visit _ => heard_visit visit
  have hreturned : returned = made.flatMap fun visit => heardIn visit.ending := by
    unfold returned
    rw [show run.1 = _ from callEach_endings exchanges link, List.flatMap_map]
  refine ⟨tallies_heard.callEach exchanges link, hcompleted, hreturned, ?_, ?_⟩
  · rw [hcompleted, hreturned]
    exact kept_sublist made _ _
  · rw [hcompleted, hreturned, kept_eq_iff]
    exact forall₂_congr fun visit _ => dropped_eq_nil_iff visit

/-- A line is read, and behind it a second one is waited for in vain: the
operation fails, and nobody gets the line, neither from it nor later. -/
theorem line_lost_behind_timeout :
    let link : Transport Outlet :=
      { peer := {}, limit := ⟨1000⟩, inbox := [.chunk [0x31, 0x32, 0x0A]] }
    let exchanges : List Exchange := [.receiveThen .receive, .receive]
    let run := callEach exchanges link
    (trialsIn exchanges link).flatMap Trial.heard = ["12"]
      ∧ run.2.stats.messagesReceived = 1
      ∧ run.1 = [.error (.timeout ⟨1000⟩), .error (.timeout ⟨1000⟩)]
      ∧ run.2.unread = [] := by
  decide +kernel

end SerialEndpoint
