/-
Sends on a stream that may fail after any number of bytes. The transport
does not remember how much of a frame was taken, so the next frame goes on
the stream right behind the piece of a frame that was cut.

# What is left over

A send adds a front of its frame to the stream (`sentOn_taken`). The only
line end of a frame is its last byte, so such a front is the whole frame, or
it has no line end at all (`front_of_frame`). Therefore the piece without its
line end that stands at the end of the stream (`unfinished`) goes as follows:
a whole frame makes it empty, and every other send adds to it what was taken.
By induction on the sends, from the last one backwards, it is all that was
taken since the last whole frame (`sendEach_unfinished`).

Whether a frame was taken whole is a matter of its bytes, and not of what the
client was told: a flush that fails behind a whole frame is an error, and it
cuts nothing.

# The line of a message

That piece and the next message that is sent come to the peer as one line
(`endedLines_frame`), and what is sent later does not change a line that has
ended. So a message that is sent has a line of its own exactly if the piece
was empty, which is to say that of all frames cut since the last whole one no
byte was taken (`own_line_iff`).
-/
import Mathlib.Data.List.DropRight
import SerialEndpoint.Proofs.Link.Lines
import SerialEndpoint.Proofs.Link.Operations

namespace SerialEndpoint

-- ================================================================ sends

/-- A send that was made: the message, the bytes that the stream took of its
frame, and whether the client was told that it succeeded. -/
structure Sent where
  message : String
  taken : List UInt8
  succeeded : Bool
deriving DecidableEq

/-- True of a send whose whole frame was taken, whatever the client was
told. -/
def Sent.whole (sent : Sent) : Bool := sent.taken == (Frame.ofMessage sent.message).bytes

section Sends

variable {π : Type} [Peer π]

/-- The send that was made of a message, by the link before it. -/
def sentOn (link : Transport π) (message : String) : Sent where
  message
  taken := (stateAfter (Transport.send message link)).written.drop link.written.length
  succeeded := match Transport.send message link with
    | .ok _ _ => true
    | .error _ _ => false

/-- Sends one after the other, whether or not they succeed, and the link
after them. -/
def sendEach : List String → Transport π → List Sent × Transport π
  | [], link => ([], link)
  | message :: rest, link =>
    let later := sendEach rest (stateAfter (Transport.send message link))
    (sentOn link message :: later.1, later.2)

theorem sendEach_concat (messages : List String) (message : String) (link : Transport π) :
    sendEach (messages ++ [message]) link =
      let before := sendEach messages link
      (before.1 ++ [sentOn before.2 message],
        stateAfter (Transport.send message before.2)) := by
  induction messages generalizing link with
  | nil => rfl
  | cons first rest ih =>
      rw [List.cons_append, sendEach, ih]
      rfl

/-- What a send takes is a front of its frame, which goes behind all that
was written; and the whole frame, if the send succeeds. -/
theorem sentOn_taken (link : Transport π) (message : String) :
    (sentOn link message).taken <+: (Frame.ofMessage message).bytes
      ∧ (stateAfter (Transport.send message link)).written
        = link.written ++ (sentOn link message).taken
      ∧ ((sentOn link message).succeeded = true → (sentOn link message).whole = true) := by
  obtain ⟨taken, hfront, hwritten, hwhole⟩ := Transport.writes_send message link
  have htaken : (sentOn link message).taken = taken := by
    unfold sentOn
    rw [hwritten]
    exact List.drop_left
  refine ⟨htaken ▸ hfront, htaken ▸ hwritten, ?_⟩
  intro hsucceeded
  unfold Sent.whole
  rw [beq_iff_eq, htaken]
  cases hsend : Transport.send message link with
  | ok value after => exact hwhole value after hsend
  | error fault after =>
      unfold sentOn at hsucceeded
      rw [hsend] at hsucceeded
      cases hsucceeded

/-- Whatever is sent later, what was written stays in front. -/
theorem sendEach_extends (messages : List String) (link : Transport π) :
    link.written <+: (sendEach messages link).2.written := by
  induction messages generalizing link with
  | nil => exact List.prefix_rfl
  | cons message rest ih =>
      have hfirst := (sentOn_taken link message).2.1
      have hrest := ih (stateAfter (Transport.send message link))
      rw [hfirst] at hrest
      exact (List.prefix_append ..).trans hrest

/-- A send that succeeded had its whole frame taken. -/
theorem sendEach_whole (messages : List String) (link : Transport π) :
    ∀ sent ∈ (sendEach messages link).1, sent.succeeded = true → sent.whole = true := by
  induction messages generalizing link with
  | nil => exact fun _ hsent => absurd hsent List.not_mem_nil
  | cons message rest ih =>
      intro sent hsent
      rcases List.mem_cons.1 hsent with rfl | hsent
      · exact (sentOn_taken link message).2.2
      · exact ih _ sent hsent

-- =========================================================== unfinished

/-- What was taken since the last whole frame. -/
def leftOver (sends : List Sent) : List UInt8 :=
  (sends.rtakeWhile fun sent => !sent.whole).flatMap Sent.taken

/-- A front of a frame is all of it, or it has no line end. -/
theorem front_of_frame {message : String} {taken : List UInt8}
    (hfront : taken <+: (Frame.ofMessage message).bytes) :
    taken = (Frame.ofMessage message).bytes ∨ lineEnd ∉ taken := by
  rw [Frame.bytes_ofMessage, List.prefix_concat_iff] at hfront
  rcases hfront with hwhole | hfront
  · exact .inl hwhole
  · right
    intro hmem
    exact sentByte_line message _ (hfront.subset hmem) rfl

/-- Behind a piece of a line, a frame ends the line. -/
theorem lines_frame {piece : List UInt8} (hpiece : lineEnd ∉ piece) (message : String)
    (rest : List UInt8) :
    endedLines (piece ++ ((Frame.ofMessage message).bytes ++ rest))
        = (piece ++ message.toList.map sentByte) :: endedLines rest
      ∧ unfinished (piece ++ ((Frame.ofMessage message).bytes ++ rest)) = unfinished rest := by
  have hline : lineEnd ∉ piece ++ message.toList.map sentByte :=
    List.not_mem_append hpiece fun hmem => sentByte_line message _ hmem rfl
  have hsplit : piece ++ ((Frame.ofMessage message).bytes ++ rest)
      = piece ++ message.toList.map sentByte ++ lineEnd :: rest := by
    rw [Frame.bytes_ofMessage]
    simp only [List.append_assoc, List.cons_append, List.nil_append]
  rw [hsplit]
  exact ⟨endedLines_line hline rest, unfinished_line hline rest⟩

/-- Behind what is written a frame adds one line, made of the unfinished
piece and the message. -/
theorem endedLines_frame (written : List UInt8) (message : String) :
    endedLines (written ++ (Frame.ofMessage message).bytes)
        = endedLines written ++ [unfinished written ++ message.toList.map sentByte]
      ∧ unfinished (written ++ (Frame.ofMessage message).bytes) = [] := by
  obtain ⟨hended, hopen⟩ := lines_frame (lines_unfinished written).2.2 message []
  rw [List.append_nil] at hended hopen
  rw [(endedLines_append _ _).1, (endedLines_append _ _).2, hended, hopen]
  exact ⟨rfl, rfl⟩

/-- A stream that began with a line has at its end what was taken since the
last whole frame. -/
theorem sendEach_unfinished {link : Transport π} (hstart : unfinished link.written = [])
    (messages : List String) :
    unfinished (sendEach messages link).2.written = leftOver (sendEach messages link).1 := by
  induction messages using List.reverseRecOn with
  | nil => exact hstart
  | append_singleton before message ih =>
      rw [sendEach_concat]
      set run := sendEach before link
      obtain ⟨hfront, hwritten, -⟩ := sentOn_taken run.2 message
      have hpiece := (lines_unfinished run.2.written).2.2
      unfold leftOver at ih ⊢
      simp only
      rw [hwritten, List.rtakeWhile_concat]
      by_cases hwhole : (sentOn run.2 message).whole = true
      · have hframe : (sentOn run.2 message).taken = (Frame.ofMessage message).bytes := by
          unfold Sent.whole at hwhole
          rw [beq_iff_eq] at hwhole
          exact hwhole
        rw [hframe, (endedLines_frame _ _).2, hwhole]
        rfl
      · have hcut : lineEnd ∉ (sentOn run.2 message).taken := by
          rcases front_of_frame hfront with hframe | hcut
          · exact absurd (beq_iff_eq.2 hframe) hwhole
          · exact hcut
        rw [(endedLines_append _ _).2, unfinished_open (List.not_mem_append hpiece hcut), ih,
          if_pos (by simpa using hwhole), List.flatMap_append, List.flatMap_singleton]

/-- Behind its lines a stream has nothing exactly if it is empty or its last
byte is a line end. -/
theorem unfinished_eq_nil_iff (bytes : List UInt8) :
    unfinished bytes = [] ↔ bytes = [] ∨ bytes.getLast? = some lineEnd := by
  obtain ⟨hwhole, -, hopen⟩ := lines_unfinished bytes
  constructor
  · intro hnone
    rw [hnone, List.append_nil] at hwhole
    rcases List.eq_nil_or_concat (endedLines bytes) with hlines | ⟨lines, line, hlines⟩
    · left
      rw [← hwhole, hlines]
      rfl
    · right
      rw [← hwhole, hlines, List.concat_eq_append, List.flatMap_append, List.flatMap_singleton,
        withEnd, ← List.append_assoc, List.getLast?_concat]
  · rintro (rfl | hlast)
    · rfl
    · by_contra hsome
      rw [← hwhole, List.getLast?_append_of_ne_nil _ hsome] at hlast
      exact hopen (List.mem_of_getLast? hlast)

-- ============================================================ own lines

/-- A message that is sent comes to the peer in one line with all that was
taken since the last whole frame. So it has a line of its own exactly if
that is nothing. -/
theorem own_line_iff {link : Transport π} (hfresh : link.written = []) (before : List String)
    {message : String} {after : Transport π}
    (hsent : Transport.send message (sendEach before link).2 = .ok () after)
    (later : List String) :
    let sends := (sendEach before link).1
    let stream := (sendEach before link).2.written
    let final := (sendEach later after).2.written
    stream ++ (Frame.ofMessage message).bytes <+: final
      ∧ (endedLines final)[(endedLines stream).length]?
        = some (leftOver sends ++ message.toList.map sentByte)
      ∧ ((stream = [] ∨ stream.getLast? = some lineEnd) ↔
        ∀ sent ∈ sends.rtakeWhile fun sent => !sent.whole, sent.taken = [])
      ∧ ∀ sent ∈ sends, sent.succeeded = true → sent.whole = true := by
  intro sends stream final
  have hstart : unfinished link.written = [] := by
    rw [hfresh]
    rfl
  have hpiece : unfinished stream = leftOver sends := sendEach_unfinished hstart before
  have hafter : after.written = stream ++ (Frame.ofMessage message).bytes := by
    obtain ⟨taken, -, hwritten, hwhole⟩ := Transport.writes_send message (sendEach before link).2
    rw [hsent] at hwritten
    rw [hwhole () after hsent] at hwritten
    exact hwritten
  have hstands : stream ++ (Frame.ofMessage message).bytes <+: final :=
    hafter ▸ sendEach_extends later after
  refine ⟨hstands, ?_, ?_, sendEach_whole before link⟩
  · obtain ⟨rest, hrest⟩ := hstands
    rw [← hrest, List.append_assoc, (endedLines_append _ _).1,
      (lines_frame (lines_unfinished stream).2.2 message rest).1, hpiece]
    simp
  · rw [← unfinished_eq_nil_iff, hpiece]
    unfold leftOver
    exact List.flatMap_eq_nil_iff

end Sends

-- ======================================================== rationed streams

/-- A stream of which it is known beforehand how much it takes of each
frame; behind the last of them it takes whole frames. -/
structure Rationed where
  uptakes : List Uptake

instance : Peer Rationed where
  offer stream _ := ⟨stream.uptakes.headD .whole, [], ⟨stream.uptakes.tail⟩⟩

/-- A frame is cut after five bytes, and the next one is taken whole before
its flush fails: the message after them has a line of its own. -/
theorem own_line_iff_unplugged :
    let uptakes : List Uptake := [.cut 5 .blocked, .cut 17 (.failed ⟨.brokenPipe, "unplugged"⟩)]
    let link : Transport Rationed := { peer := ⟨uptakes⟩, limit := ⟨1000⟩ }
    let before := sendEach ["MOTOR_FORWARD M1", "MOTOR_FORWARD M1"] link
    before.1.map Sent.succeeded = [false, false]
      ∧ ∃ after, Transport.send "MOTOR_BRAKE_HOLD M1" before.2 = .ok () after
        ∧ (endedLines after.written)[1]? = some (Utf8.encode "MOTOR_BRAKE_HOLD M1")
        ∧ (before.2.written = [] ∨ before.2.written.getLast? = some lineEnd) := by
  intro uptakes link before
  obtain ⟨after, hsent⟩ : ∃ after,
      Transport.send "MOTOR_BRAKE_HOLD M1" before.2 = .ok () after := ⟨_, rfl⟩
  obtain ⟨-, hline, hown, -⟩ := @own_line_iff _ _ link rfl _ _ _ hsent []
  have hwhole : before.1.rtakeWhile (fun sent => !sent.whole) = [] := by decide +kernel
  have hlines : (endedLines before.2.written).length = 1 := by decide +kernel
  refine ⟨by decide +kernel, after, hsent, ?_, ?_⟩
  · rw [hlines, leftOver, hwhole] at hline
    exact hline
  · apply hown.2
    rw [hwhole]
    exact fun sent hmem => absurd hmem List.not_mem_nil

/-- A frame is cut after five bytes, and the message is sent again. The
second send succeeds, and its frame is the end of another line. -/
theorem retry_joins_cut_frame :
    let link : Transport Rationed := { peer := ⟨[.cut 5 .blocked]⟩, limit := ⟨1000⟩ }
    let before := sendEach ["MOTOR_BRAKE_HOLD M1"] link
    ∃ after, Transport.send "MOTOR_BRAKE_HOLD M1" before.2 = .ok () after
      ∧ after.written = before.2.written ++ (Frame.ofMessage "MOTOR_BRAKE_HOLD M1").bytes
      ∧ endedLines after.written = [Utf8.encode "MOTORMOTOR_BRAKE_HOLD M1"]
      ∧ ¬ (before.2.written = [] ∨ before.2.written.getLast? = some lineEnd) := by
  intro link before
  refine ⟨_, rfl, rfl, ?_, ?_⟩
  · decide +kernel
  · decide +kernel

end SerialEndpoint
