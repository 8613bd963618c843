/-
Lines at their place in the stream, and a reply on its way back.

# Ends of lines

What a board makes of a line hangs on the bytes before the line's end,
whenever they are taken. If all before a line leaves the board at rest, the
line of a command does what the command says (`answers_of_core`), and a line
behind a command for a duty is that duty (`sets_of_core`). Both are about any
board with the right core, so they hold whatever its sensors show when the
end of the line comes.

# The invariant

A client that asks has nothing to hear but the reply. What is on its way to
it is in three places: in the line that it has begun to read, in the inbox,
and with the board, which has yet to send it. `Coming` takes the three
together, and so the moves that carry bytes from one place to the next leave
it as it is (`Coming.deliver`).

`Asked` says which bytes these are. Up to the end of the request there are
none, and the bytes of the request that the board has yet to take do not make
it write any either. From then on they are just the reply's line.

A byte of the request is one of those that were said to keep the board
silent, so nothing is on its way behind it and one byte less is to come. At
the end of the request the board answers, and there is nothing more for it to
take, because the client sends nothing while it waits (`Asked.take`). No
other move writes anything. But sensors may see something else from then on,
and it has to be shown that the board keeps silent still: whether it writes
hangs on its core, where they do not occur (`feedAll_silent`).

A line that is read is therefore the reply, in however many chunks it came
in (`Asked.receive`).
-/
import SerialEndpoint.Proofs.Link.Lines
import SerialEndpoint.Proofs.Link.Remote
import SerialEndpoint.Proofs.Replies

namespace SerialEndpoint

-- ======================================================== ends of lines

/-- At the end of a line a board does what a command says, and what it
writes is a line with a text. -/
structure Board.Answers (board : Board) (command : Command) (text : String) : Prop where
  acts : board.feed lineEnd
    = { board with pending := [], dispatched := board.dispatched + 1 }.act command
  writes : (board.feed lineEnd).output = board.output ++ Utf8.encode text ++ [lineEnd]

/-- At the end of a line a board takes it as the duty that a motor waits
for. -/
structure Board.Sets (board : Board) (slot : SpeedSlot) (line : List UInt8) : Prop where
  waits : board.waiting? = some slot
  sets : board.feed lineEnd = { board with pending := [] }.setDuty slot line

section Ends

variable {circuit : Circuit} {assignments : List Assignment} {before b : Board}

/-- From rest the line of a command that is replied to is answered, however
long its end is in coming. -/
theorem answers_of_core (hs : Served assignments)
    (hcommands : circuit.commands = commandTable assignments)
    (htoken : isTimeoutToken circuit.ranging.timeoutToken = true)
    (hrest : before.AtRest circuit) {command : Command} (hc : command ∈ commandTable assignments)
    (hreplies : command.action.replies = true)
    (hfits : command.line.length ≤ circuit.capacity)
    (hcore : b.core = (before.feedAll (Utf8.encode command.line)).core) :
    ∃ text, IsPlain text.toList ∧ b.Answers command text := by
  have hplain := table_plain hs hc
  have hline := encode_plain_bytes hplain
  obtain ⟨hkept, hfind⟩ := line_kept hs hcommands hc hfits
  rw [Board.feedAll_open (fun byte hbyte => (hline byte hbyte).1)
    (by rw [hrest.pending]; exact Nat.zero_le _), hrest.pending, List.nil_append, hrest.circuit,
    hkept] at hcore
  have hpending : b.pending = Utf8.encode command.line := congrArg Board.pending hcore
  have hcircuit : b.circuit = circuit := congrArg Board.circuit hcore
  rw [← hcircuit] at hfind
  have hidle : b.waiting? = none :=
    (congr_core Board.waiting? (fun _ => rfl) hcore).trans hrest.idle
  have hwhole : (Utf8.encode command.line).takeWhile (· ≠ 0) = Utf8.encode command.line := by
    rw [List.takeWhile_eq_self_iff]
    exact fun byte hbyte => decide_eq_true (hline byte hbyte).2
  let counted : Board := { b with pending := [], dispatched := b.dispatched + 1 }
  have hacts : b.feed lineEnd = counted.act command := by
    unfold Board.feed
    rw [if_pos rfl, hpending, hwhole]
    unfold Board.dispatch
    rw [show ({ b with pending := [] } : Board).waiting? = none from hidle]
    simp only
    rw [hfind]
  have haccepted : isTimeoutToken counted.circuit.ranging.timeoutToken = true := by
    show isTimeoutToken b.circuit.ranging.timeoutToken = true
    rw [hcircuit]
    exact htoken
  obtain ⟨text, hplain', hreply⟩ := act_reply haccepted hreplies
  refine ⟨text, hplain', hacts, ?_⟩
  rw [hacts, hreply]
  rfl

/-- From rest a line behind a command for a duty is that duty. -/
theorem sets_of_core (hs : Served assignments)
    (hseparate : Separate (speedPins assignments))
    (hcommands : circuit.commands = commandTable assignments) (hrest : before.AtRest circuit)
    {a : Assignment} (ha : a ∈ assignments) {command : Command} (hc : command ∈ a.commands)
    (hfits : command.line.length ≤ circuit.capacity) {pwm : Pin}
    (haction : command.action = .awaitSpeed pwm) {message : String}
    (hcore : b.core
      = ((before.hear command.line).feedAll (message.toList.map sentByte)).core) :
    b.Sets (slotOf (a.name, pwm) true) (keptOf circuit.capacity message) := by
  obtain ⟨hwaiting, heard⟩ := hear_awaitSpeed hs hseparate hcommands hrest ha hc hfits haction
  have hpending : (before.hear command.line).pending = [] := by
    rw [heard]
    exact hrest.pending
  have hcapacity : (before.hear command.line).circuit = circuit := by
    rw [heard]
    exact hrest.circuit
  rw [Board.feedAll_open (sentByte_line message) (by rw [hpending]; exact Nat.zero_le _),
    hpending, List.nil_append, hcapacity] at hcore
  have hwaits : b.waiting? = some (slotOf (a.name, pwm) true) :=
    (congr_core Board.waiting? (fun _ => rfl) hcore).trans hwaiting
  refine ⟨hwaits, ?_⟩
  have hkept : b.pending = (message.toList.map sentByte).take circuit.capacity :=
    congrArg Board.pending hcore
  unfold Board.feed
  rw [if_pos rfl, hkept]
  unfold Board.dispatch
  rw [show ({ b with pending := [] } : Board).waiting? = some _ from hwaits]
  rfl

end Ends

-- ============================================================== silence

section Silence

variable {board board' : Board}

theorem act_output (board : Board) (command : Command) :
    board.output <+: (board.act command).output := by
  unfold Board.act
  cases command.action with
  | readVoltage pin => exact ⟨_, (List.append_assoc ..).symm⟩
  | readDistance => exact ⟨_, (List.append_assoc ..).symm⟩
  | _ => exact List.prefix_rfl

theorem feed_output (board : Board) (byte : UInt8) :
    board.output <+: (board.feed byte).output := by
  unfold Board.feed
  split
  · unfold Board.dispatch
    split
    · exact List.prefix_rfl
    · split
      · exact act_output { board with pending := [], dispatched := board.dispatched + 1 } _
      · exact List.prefix_rfl
  · split
    · exact List.prefix_rfl
    · exact List.prefix_rfl

/-- A board only ever writes more. -/
theorem feedAll_output (board : Board) (bytes : List UInt8) :
    board.output <+: (board.feedAll bytes).output := by
  induction bytes generalizing board with
  | nil => exact List.prefix_rfl
  | cons byte rest ih => exact (feed_output board byte).trans (ih _)

/-- Whether a command is replied to hangs on the command alone. -/
theorem act_silent {command : Command} (h : (board.act command).output = board.output) :
    (board'.act command).output = board'.output := by
  unfold Board.act at h ⊢
  cases haction : command.action with
  | readVoltage pin =>
      rw [haction] at h
      simp [Board.reply] at h
  | readDistance =>
      rw [haction] at h
      simp [Board.reply] at h
  | _ => rfl

theorem dispatch_silent (hcore : board.core = board'.core) {line : List UInt8}
    (h : (board.dispatch line).output = board.output) :
    (board'.dispatch line).output = board'.output := by
  unfold Board.dispatch at h ⊢
  rw [congr_core Board.waiting? (fun _ => rfl) hcore,
    congr_core Board.circuit (fun _ => rfl) hcore] at h
  cases hwaiting : board'.waiting? with
  | some slot => rfl
  | none =>
      rw [hwaiting] at h
      cases hfind : board'.circuit.command? line with
      | some command =>
          rw [hfind] at h
          exact act_silent h
      | none => rfl

theorem feed_silent (hcore : board.core = board'.core) {byte : UInt8}
    (h : (board.feed byte).output = board.output) :
    (board'.feed byte).output = board'.output := by
  have hemptied : ({ board with pending := [] } : Board).core
      = ({ board' with pending := [] } : Board).core :=
    congrArg (fun b : Board => { b with pending := [] }) hcore
  unfold Board.feed at h ⊢
  split
  · rename_i hbyte
    rw [if_pos hbyte, congr_core Board.pending (fun _ => rfl) hcore] at h
    exact dispatch_silent hemptied h
  · split
    · rfl
    · rfl

/-- Boards alike are silent alike. -/
theorem feedAll_silent {bytes : List UInt8} :
    ∀ {board board' : Board}, board.core = board'.core → board'.output = [] →
      (board.feedAll bytes).output = [] → (board'.feedAll bytes).output = [] := by
  induction bytes with
  | nil => exact fun _ h _ => h
  | cons byte rest ih =>
      intro board board' hcore houtput hsilent
      have hnext : (board.feed byte).output = [] :=
        List.prefix_nil.1 (hsilent ▸ feedAll_output (board.feed byte) rest)
      have hnow : board.output = [] := List.prefix_nil.1 (hnext ▸ feed_output board byte)
      refine ih (Board.core_feed_congr hcore byte) ?_ hsilent
      rw [feed_silent hcore (hnext.trans hnow.symm), houtput]

end Silence

-- ========================================================= on its way

/-- What is on its way to the clients: the bytes of the line that is begun,
those in the inbox, and those that the board has yet to send. -/
def Coming (remote : Remote) (begun : List UInt8) (inbox : List Arrival)
    (bytes : List UInt8) : Prop :=
  ∃ chunks : List (List UInt8), inbox = chunks.map .chunk ∧ (∀ chunk ∈ chunks, chunk ≠ [])
    ∧ begun ++ chunks.flatten ++ remote.board.output = bytes

/-- What is on its way of a reply: nothing up to the end of the request,
and from then on the line that the board answered with. -/
inductive Asked (request : List UInt8) (command : Command) (remote : Remote)
    (begun : List UInt8) (inbox : List Arrival) : Prop where
  | unanswered (htaken : remote.seen.length ≤ request.length)
      (hsilent : (remote.board.feedAll (request.drop remote.seen.length)).output = [])
      (hcoming : Coming remote begun inbox [])
  | answered {b : Board} {text : String} (hseen : remote.seen[request.length]? = some b)
      (hplain : IsPlain text.toList) (hanswers : b.Answers command text)
      (htaken : remote.seen.length = request.length + 1)
      (hcoming : Coming remote begun inbox (Utf8.encode text ++ [lineEnd]))

section Asking

variable {circuit : Circuit} {remote : Remote} {begun bytes : List UInt8} {inbox : List Arrival}

theorem Coming.become (h : Coming remote begun inbox bytes) {remote' : Remote}
    (houtput : remote'.board.output = remote.board.output) :
    Coming remote' begun (inbox ++ []) bytes := by
  unfold Coming
  rw [houtput, List.append_nil]
  exact h

theorem Coming.deliver (h : Coming remote begun inbox bytes) {chunk rest : List UInt8}
    (houtput : remote.board.output = chunk ++ rest) (hchunk : chunk ≠ []) :
    Coming (remote.become { remote.board with output := rest }) begun
      (inbox ++ [.chunk chunk]) bytes := by
  obtain ⟨chunks, rfl, hchunks, rfl⟩ := h
  refine ⟨chunks ++ [chunk], ?_, fun c hc => ?_, ?_⟩
  · rw [List.map_append]
    rfl
  · rcases List.mem_append.1 hc with hc | hc
    · exact hchunks c hc
    · rw [List.mem_singleton.1 hc]
      exact hchunk
  · rw [houtput, List.flatten_append]
    show begun ++ (chunks.flatten ++ (chunk ++ [])) ++ rest = _
    rw [List.append_nil]
    simp only [List.append_assoc]

/-- With nothing on its way, a board has written nothing. -/
theorem Coming.silent (h : Coming remote begun inbox []) : remote.board.output = [] := by
  obtain ⟨chunks, -, -, hnone⟩ := h
  exact (List.append_eq_nil_iff.1 hnone).2

/-- With nothing on its way, what a board writes is. -/
theorem Coming.fresh (h : Coming remote begun inbox []) {remote' : Remote}
    (houtput : remote'.board.output = bytes) : Coming remote' begun (inbox ++ []) bytes := by
  obtain ⟨chunks, hinbox, hchunks, hnone⟩ := h
  rw [List.append_nil]
  refine ⟨chunks, hinbox, hchunks, ?_⟩
  rw [(List.append_eq_nil_iff.1 hnone).1, houtput, List.nil_append]

variable {request written : List UInt8} {command : Command}

/-- The board goes on through a request, as far as its end. -/
theorem Asked.take (hfed : Fed circuit written remote)
    (hwritten : written <+: request ++ [lineEnd])
    (hanswers : ∀ b : Board, b.core = (circuit.start.feedAll request).core →
      ∃ text, IsPlain text.toList ∧ b.Answers command text)
    (h : Asked request command remote begun inbox) {byte : UInt8}
    (hbyte : written[remote.seen.length]? = some byte) :
    Asked request command (remote.take byte) begun (inbox ++ []) := by
  have hplace : (request ++ [lineEnd])[remote.seen.length]? = some byte :=
    getElem?_of_front hwritten hbyte
  have hlength : (remote.take byte).seen.length = remote.seen.length + 1 :=
    List.length_append
  cases h with
  | unanswered htaken hsilent hcoming =>
      rcases Nat.lt_or_eq_of_le htaken with hlt | hend
      · -- a byte of the request
        rw [List.getElem?_append_left hlt] at hplace
        obtain ⟨_, rfl⟩ := List.getElem?_eq_some_iff.1 hplace
        rw [List.drop_eq_getElem_cons hlt] at hsilent
        refine .unanswered (hlength ▸ hlt) (hlength ▸ hsilent) (hcoming.fresh ?_)
        exact List.prefix_nil.1 (hsilent ▸ feedAll_output (remote.board.feed _) _)
      · -- its end
        rw [hend, List.getElem?_append_right (Nat.le_refl _), Nat.sub_self] at hplace
        obtain rfl : lineEnd = byte := Option.some_inj.1 hplace
        have hfront : request <+: written := by
          have hlt := (List.getElem?_eq_some_iff.1 hbyte).1
          exact List.prefix_of_prefix_length_le (List.prefix_append ..) hwritten (hend ▸ hlt.le)
        have hcore : remote.board.core = (circuit.start.feedAll request).core := by
          rw [hfed.board, hend, ← List.prefix_iff_eq_take.1 hfront]
        obtain ⟨text, hplain, hanswer⟩ := hanswers _ hcore
        have hseen : (remote.take lineEnd).seen[request.length]? = some remote.board := by
          show (remote.seen ++ [remote.board])[request.length]? = _
          rw [← hend, List.getElem?_append_right (Nat.le_refl _), Nat.sub_self]
          rfl
        refine .answered hseen hplain hanswer (hend ▸ hlength) (hcoming.fresh ?_)
        show (remote.board.feed lineEnd).output = _
        rw [hanswer.writes, hcoming.silent, List.nil_append]
  | answered hseen hplain hanswer htaken hcoming =>
      rw [htaken, List.getElem?_append_right (Nat.le_succ _)] at hplace
      simp at hplace

/-- Whatever the board does, nothing else than the reply comes in. -/
theorem Asked.moves (hfed : Fed circuit written remote)
    (hwritten : written <+: request ++ [lineEnd])
    (hanswers : ∀ b : Board, b.core = (circuit.start.feedAll request).core →
      ∃ text, IsPlain text.toList ∧ b.Answers command text)
    (h : Asked request command remote begun inbox) {arrivals : List Arrival} {remote' : Remote}
    (hmove : Remote.Moves written remote arrivals remote') :
    Asked request command remote' begun (inbox ++ arrivals) := by
  have hsensed : ∀ board : Board, board.core = remote.board.core →
      board.output = remote.board.output →
      Asked request command (remote.become board) begun (inbox ++ []) := by
    intro board hcore houtput
    cases h with
    | unanswered htaken hsilent hcoming =>
        exact .unanswered htaken
          (feedAll_silent hcore.symm (houtput.trans hcoming.silent) hsilent)
          (hcoming.become houtput)
    | answered hseen hplain hanswer htaken hcoming =>
        exact .answered hseen hplain hanswer htaken (hcoming.become houtput)
  cases hmove with
  | take hbyte => exact h.take hfed hwritten hanswers hbyte
  | deliver houtput hchunk =>
      cases h with
      | unanswered htaken hsilent hcoming =>
          rw [hcoming.silent] at houtput
          exact absurd (List.append_eq_nil_iff.1 houtput.symm).1 hchunk
      | answered hseen hplain hanswer htaken hcoming =>
          exact .answered hseen hplain hanswer htaken (hcoming.deliver houtput hchunk)
  | reading pin raw => exact hsensed _ rfl rfl
  | range sensor distance => exact hsensed _ rfl rfl

-- ============================================================== reading

/-- A line that is read from chunks is in front of them. -/
theorem readLine_chunks {chunks : List (List UInt8)} (hchunks : ∀ chunk ∈ chunks, chunk ≠ [])
    {begun : List UInt8} : (readLine begun (chunks.map .chunk)).outcome = .silence
      ∨ ∃ line, (readLine begun (chunks.map .chunk)).outcome = .line line
        ∧ line ++ [lineEnd] <+: begun ++ chunks.flatten := by
  have hreads := readLine_reads begun (chunks.map .chunk)
  have hbytes : bytesIn (chunks.map .chunk) = chunks.flatten := by
    unfold bytesIn
    rw [List.flatMap_map]
    exact List.flatMap_id
  cases houtcome : (readLine begun (chunks.map .chunk)).outcome with
  | silence => exact .inl rfl
  | line line =>
      refine .inr ⟨line, rfl, ?_⟩
      rw [← hbytes, ← hreads.bytes, houtcome]
      exact List.prefix_append ..
  | failure fault =>
      obtain ⟨chunk, -, hfailure⟩ := List.mem_map.1 (hreads.failed houtcome)
      cases hfailure
  | theEnd =>
      obtain ⟨arrival, hmem, hend⟩ := List.any_eq_true.1 (hreads.met houtcome)
      obtain ⟨chunk, hchunk, rfl⟩ := List.mem_map.1 hmem
      cases chunk with
      | nil => exact absurd rfl (hchunks [] hchunk)
      | cons byte bytes => cases hend

/-- A line that is received is the reply. -/
theorem Asked.receive {link after : Transport Remote} {text : String}
    (h : Asked request command link.peer link.begun link.inbox)
    (hread : Transport.receive link = .ok text after) :
    ∃ b, link.peer.seen[request.length]? = some b ∧ b.Answers command text := by
  have hline : ∀ {bytes : List UInt8}, Coming link.peer link.begun link.inbox bytes →
      ∃ line, text = Utf8.decodeLossy line ∧ line ++ [lineEnd] <+: bytes := by
    rintro bytes ⟨chunks, hinbox, hchunks, rfl⟩
    rw [Transport.receive_run, hinbox] at hread
    simp only at hread
    rcases readLine_chunks hchunks with hsilence | ⟨line, houtcome, hfront⟩
    · rw [hsilence] at hread
      cases hread
    · rw [houtcome] at hread
      cases hread
      exact ⟨line, rfl, hfront.trans (List.prefix_append ..)⟩
  cases h with
  | unanswered htaken hsilent hcoming =>
      obtain ⟨line, -, hfront⟩ := hline hcoming
      exact absurd (List.prefix_nil.1 hfront) (by simp)
  | @answered b reply hseen hplain hanswer htaken hcoming =>
      obtain ⟨line, rfl, rest, hrest⟩ := hline hcoming
      -- the reply's own line end is its only one
      have hnever : lineEnd ∉ Utf8.encode reply :=
        fun hmem => (encode_plain_bytes hplain _ hmem).1 rfl
      have hwhole : line = Utf8.encode reply := by
        rcases List.append_eq_append_iff.1 hrest with ⟨more, hreply, -⟩ | ⟨last, hline, hlast⟩
        · exact absurd (hreply ▸ by simp) hnever
        · cases last with
          | nil =>
              rw [List.append_nil] at hline
              exact absurd (hline ▸ by simp) hnever
          | cons byte none =>
              obtain ⟨rfl, hnone⟩ := List.cons.inj hlast
              rw [(List.append_eq_nil_iff.1 hnone.symm).1] at hline
              exact List.append_cancel_right hline
      refine ⟨b, hseen, ?_⟩
      rw [hwhole, Utf8.decodeLossy_encode]
      exact hanswer

end Asking

end SerialEndpoint
