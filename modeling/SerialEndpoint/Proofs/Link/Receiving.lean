/-
Receiving, however the stream is delivered. Chunks may cut a line or a
character anywhere, several lines may come in one chunk, and in between
reads may run out of time or fail. Nothing of this is heard
(`framing_round_trip`).

# The invariant

`Transport.unread` are the bytes that have come in, or will, and are not yet
delivered: those of the line that is begun and those in the inbox.
What has been heard and what is unread always make up the lines of the
stream (`Received.lines`). A receive takes the first of the unread lines
(`received_line`), or what the end of the stream has left as the last one
(`received_end`), or it comes to nothing and leaves them all
(`received_held`). That no line end is among the bytes that are begun has to
be carried along, or a line could be cut in two.

`Received` is for any number of receives, and the number counts: each of them
uses up some of the inbox. So after enough of them nothing is unread, or
nothing is in the inbox (`Received.used`), and then the texts heard are those
of the stream's lines, in order (`Received.heard`).

# Frames

In the frames of messages every line has its end, so a piece without one
cannot be at the end of them (`Received.none_left`), and it needs no end of
the stream to have all of them heard. The text of a message is the message
with a question mark for everything that cannot be sent (`onTheLine`): it has
lost nothing exactly if the frame says that no character was replaced
(`onTheLine_eq_iff`).
-/
import SerialEndpoint.Proofs.Link.Alone
import SerialEndpoint.Proofs.Link.Lines
import SerialEndpoint.Proofs.Replies

namespace SerialEndpoint

variable {π : Type}

-- ================================================================ calls

/-- What is heard in an exchange, by how it ended. -/
def heardIn : Ending → List String
  | .ok heard => heard
  | .error _ => []

/-- Calls one after the other, whether or not they succeed: how each of them
ended, and the link after them. -/
def callEach [Peer π] : List Exchange → Transport π → List Ending × Transport π
  | [], link => ([], link)
  | exchange :: rest, link =>
    let result := exchange.perform link
    let later := callEach rest (stateAfter result)
    (endingOf result :: later.1, later.2)

-- =============================================================== unread

/-- The bytes that have come in, or will, and are not yet delivered. -/
def Transport.unread (link : Transport π) : List UInt8 := link.begun ++ bytesIn link.inbox

/-- What some receives come to: how many they are, the link before them,
the texts heard, and the link after them. -/
structure Received (n : Nat) (link : Transport π) (texts : List String) (after : Transport π) :
    Prop where
  /-- The lines heard and the lines unread are those that were unread. -/
  lines : texts ++ (linesOf after.unread).map Utf8.decodeLossy
    = (linesOf link.unread).map Utf8.decodeLossy
  begun : lineEnd ∉ after.begun
  ends : EndsLast after.inbox
  suffix : after.unread <:+ link.unread
  remains : link.inbox.any Arrival.isEnd = true →
    after.unread = [] ∨ after.inbox.any Arrival.isEnd = true
  progress : after.unread = [] ∨ weight after.inbox ≤ weight link.inbox - n

theorem Received.refl {link : Transport π} (hbegun : lineEnd ∉ link.begun)
    (hends : EndsLast link.inbox) : Received 0 link [] link :=
  ⟨rfl, hbegun, hends, List.suffix_rfl, .inr, .inr (Nat.le_refl _)⟩

theorem Received.trans {m n : Nat} {link between after : Transport π}
    {texts more : List String} (h : Received m link texts between)
    (h' : Received n between more after) : Received (m + n) link (texts ++ more) after := by
  have hnone : between.unread = [] → after.unread = [] := by
    intro hnone
    have hsuffix := h'.suffix
    rw [hnone] at hsuffix
    exact List.suffix_nil.1 hsuffix
  constructor
  case lines => rw [List.append_assoc, h'.lines, h.lines]
  case begun => exact h'.begun
  case ends => exact h'.ends
  case suffix => exact h'.suffix.trans h.suffix
  case remains =>
    intro hany
    rcases h.remains hany with hread | hany
    · exact .inl (hnone hread)
    · exact h'.remains hany
  case progress =>
    rcases h.progress with hread | hless
    · exact .inl (hnone hread)
    · rcases h'.progress with hread | hless'
      · exact .inl hread
      · right
        omega

/-- Once nothing is unread, the texts heard are all the lines. -/
theorem Received.heard {n : Nat} {link after : Transport π} {texts : List String}
    (h : Received n link texts after) (hread : after.unread = []) :
    texts = (linesOf link.unread).map Utf8.decodeLossy := by
  have hlines := h.lines
  rw [hread, linesOf_nil, List.map_nil, List.append_nil] at hlines
  exact hlines

/-- After so many receives the inbox is used up, or all was read before. -/
theorem Received.used {n : Nat} {link after : Transport π} {texts : List String}
    (h : Received n link texts after) (hmany : weight link.inbox ≤ n) :
    after.unread = [] ∨ after.inbox = [] := by
  rcases h.progress with hread | hless
  · exact .inl hread
  · right
    unfold weight at hless hmany
    exact List.length_eq_zero_iff.1 (by omega)

-- ============================================================ a receive

section Receive

variable {link after : Transport π} {reading : Reading}
  (hreads : ReadsLine link.begun link.inbox reading) (hbegun : lineEnd ∉ link.begun)
  (hends : EndsLast link.inbox) (hinbox : after.inbox = reading.inbox)

include hreads hbegun hends hinbox

/-- A line that is read is the first one unread. -/
theorem received_line {bytes : List UInt8} (houtcome : reading.outcome = .line bytes)
    (hafter : after.begun = reading.begun) :
    Received 1 link [Utf8.decodeLossy bytes] after := by
  obtain ⟨hnone, hline⟩ := hreads.line houtcome
  have hbytes := hreads.bytes
  rw [houtcome, hnone, ← hinbox] at hbytes
  -- what was unread is this line, its end and what is unread now
  have hsplit : link.unread = bytes ++ lineEnd :: after.unread := by
    unfold Transport.unread
    rw [hafter, hnone, ← hbytes]
    simp [LineRead.delivered, withEnd]
  constructor
  case lines =>
    rw [hsplit, linesOf_line (hline hbegun)]
    rfl
  case begun =>
    rw [hafter, hnone]
    exact List.not_mem_nil
  case ends => exact hinbox ▸ hreads.ends hends
  case suffix =>
    rw [hsplit]
    exact ⟨bytes ++ [lineEnd], by rw [List.append_assoc]; rfl⟩
  case remains =>
    intro hany
    rcases hreads.remains with hend | hsame
    · rw [houtcome] at hend
      cases hend
    · exact .inr (hinbox ▸ hsame.trans hany)
  case progress =>
    rcases hreads.progress with hend | hless
    · rw [houtcome] at hend
      cases hend
    · exact .inr (hinbox ▸ hless)

/-- At the end of the stream the line that is begun is the only one
unread, if there is one. -/
theorem received_end (houtcome : reading.outcome = .theEnd) (hafter : after.begun = []) :
    Received 1 link (if reading.begun = [] then [] else [Utf8.decodeLossy reading.begun])
      after := by
  have hread := hreads.atEnd hends houtcome
  have hbytes := hreads.bytes
  rw [houtcome, hread, List.append_nil] at hbytes
  have hall : reading.begun = link.unread := hbytes
  have hnone : after.unread = [] := by
    unfold Transport.unread
    rw [hafter, hinbox, hread]
    rfl
  refine ⟨?_, ?_, hinbox ▸ hreads.ends hends, ?_, fun _ => .inl hnone, .inl hnone⟩
  · rw [hnone, linesOf_nil, ← hall]
    split
    · rename_i hnothing
      rw [hnothing]
      rfl
    · rename_i hsome
      rw [linesOf_open (hreads.begun hbegun) hsome]
      rfl
  · rw [hafter]
    exact List.not_mem_nil
  · rw [hnone]
    exact List.nil_suffix

/-- A read that comes to nothing leaves all that was unread. -/
theorem received_held (hnothing : reading.outcome.delivered = [])
    (hgoes : reading.outcome ≠ .theEnd) (hafter : after.begun = reading.begun) :
    Received 1 link [] after := by
  have hbytes := hreads.bytes
  rw [hnothing, List.nil_append, ← hafter, ← hinbox] at hbytes
  have hsame : after.unread = link.unread := hbytes
  constructor
  case lines => rw [hsame, List.nil_append]
  case begun => exact hafter ▸ hreads.begun hbegun
  case ends => exact hinbox ▸ hreads.ends hends
  case suffix => exact ⟨[], hsame⟩
  case remains =>
    intro hany
    rcases hreads.remains with hend | hsame
    · exact absurd hend hgoes
    · exact .inr (hinbox ▸ hsame.trans hany)
  case progress =>
    rcases hreads.progress with hend | hless
    · exact absurd hend hgoes
    · exact .inr (hinbox ▸ hless)

end Receive

variable [Peer π]

/-- One call to receive hears the first line that is unread, or none. -/
theorem received_call {link : Transport π} (hbegun : lineEnd ∉ link.begun)
    (hends : EndsLast link.inbox) :
    let result := Exchange.receive.perform link
    Received 1 link (heardIn (endingOf result)) (stateAfter result) := by
  intro result
  have hresult : result = _ := perform_read_run link
  have hreads := readLine_reads link.begun link.inbox
  rw [hresult, Transport.receive_run]
  generalize readLine link.begun link.inbox = reading at hreads
  obtain ⟨outcome, begun, inbox⟩ := reading
  cases outcome with
  | line bytes => exact received_line hreads hbegun hends rfl rfl rfl
  | theEnd =>
      by_cases hnone : begun = []
      · have hend : Received 1 link _ { link with begun, inbox, stats := link.stats.failed } :=
          received_end hreads hbegun hends rfl rfl hnone
        rw [if_pos hnone] at hend
        simp only [if_pos hnone]
        exact hend
      · have hend : Received 1 link _
            { link with begun := [], inbox, stats := link.stats.received begun } :=
          received_end hreads hbegun hends rfl rfl rfl
        rw [if_neg hnone] at hend
        simp only [if_neg hnone]
        exact hend
  | failure fault => exact received_held hreads hbegun hends rfl rfl (by simp) rfl
  | silence => exact received_held hreads hbegun hends rfl rfl (by simp) rfl

/-- Calls to receive hear the lines that are unread, one after the
other. -/
theorem received_calls (n : Nat) :
    ∀ {link : Transport π}, lineEnd ∉ link.begun → EndsLast link.inbox →
      let run := callEach (List.replicate n .receive) link
      Received n link (run.1.flatMap heardIn) run.2 := by
  induction n with
  | zero => exact fun hbegun hends => .refl hbegun hends
  | succ n ih =>
      intro link hbegun hends run
      have hfirst := received_call hbegun hends
      have hrest := ih hfirst.begun hfirst.ends
      have hboth := hfirst.trans hrest
      rw [Nat.add_comm] at hboth
      exact hboth

-- =============================================================== frames

/-- A message as it comes over the line: every character that is not ASCII
and every line end is a question mark. -/
def onTheLine (message : String) : String :=
  String.ofList (message.toList.map fun c => if c.toNat < 128 ∧ c ≠ '\n' then c else '?')

/-- The lines of some frames are what was sent for the messages. -/
theorem linesOf_frames (messages : List String) :
    linesOf (messages.flatMap fun m => (Frame.ofMessage m).bytes)
      = messages.map fun m => m.toList.map sentByte := by
  have hsent : ∀ line ∈ messages.map fun m => m.toList.map sentByte, lineEnd ∉ line := by
    intro line hline hmem
    obtain ⟨message, -, rfl⟩ := List.mem_map.1 hline
    exact sentByte_line message _ hmem rfl
  rw [← linesOf_withEnd hsent, List.flatMap_map]
  rfl

/-- Frames end with a line end, and so does every piece at their end. -/
theorem lineEnd_mem_of_suffix {messages : List String} {last : List UInt8}
    (h : last <:+ messages.flatMap fun m => (Frame.ofMessage m).bytes) (hsome : last ≠ []) :
    lineEnd ∈ last := by
  obtain ⟨front, hwhole⟩ := h
  rcases List.eq_nil_or_concat messages with rfl | ⟨before, message, rfl⟩
  · exact absurd (List.append_eq_nil_iff.1 hwhole).2 hsome
  · rw [List.concat_eq_append, List.flatMap_append, List.flatMap_singleton,
      Frame.bytes_ofMessage, ← List.append_assoc] at hwhole
    have hlast := congrArg List.getLast? hwhole
    rw [List.getLast?_append_of_ne_nil _ hsome, List.getLast?_concat] at hlast
    exact List.mem_of_getLast? hlast

omit [Peer π] in
/-- Where frames were unread, a used-up inbox leaves nothing unread: it
would be a line without its end, at the end of some frames. -/
theorem Received.none_left {n : Nat} {link after : Transport π} {texts : List String}
    (h : Received n link texts after) {messages : List String}
    (hframes : link.unread = messages.flatMap fun m => (Frame.ofMessage m).bytes)
    (hnone : after.inbox = []) : after.unread = [] := by
  have hleft : after.unread = after.begun := by
    unfold Transport.unread
    rw [hnone]
    exact List.append_nil _
  have hsuffix := h.suffix
  rw [hframes] at hsuffix
  by_contra hsome
  exact h.begun (hleft ▸ lineEnd_mem_of_suffix hsuffix hsome)

theorem isSendable_iff (c : Char) : isSendable c = true ↔ c.toNat < 128 ∧ c ≠ '\n' := by
  unfold isSendable
  rw [Bool.and_eq_true, decide_eq_true_eq, bne_iff_ne]

theorem decodeLossy_sent (message : String) :
    Utf8.decodeLossy (message.toList.map sentByte) = onTheLine message := by
  unfold onTheLine
  rw [← Utf8.decodeLossy_encode (String.ofList _), Utf8.encode_ascii, String.toList_ofList,
    List.map_map]
  · congr 1
    refine List.map_congr_left fun c _ => ?_
    unfold sentByte
    simp only [Function.comp_apply, isSendable_iff]
    split
    · rfl
    · rfl
  · intro c hc
    rw [String.toList_ofList] at hc
    obtain ⟨c', -, rfl⟩ := List.mem_map.1 hc
    split
    · rename_i hsendable
      exact hsendable.1
    · decide

/-- A message comes over the line unchanged exactly if no character of it is
replaced. -/
theorem onTheLine_eq_iff (message : String) :
    onTheLine message = message ↔ (Frame.ofMessage message).replaced = 0 := by
  have hcount : (Frame.ofMessage message).replaced = 0 ↔
      ∀ c ∈ message.toList, c.toNat < 128 ∧ c ≠ '\n' := by
    unfold Frame.ofMessage
    simp only [List.countP_eq_zero, Bool.not_eq_true', Bool.not_eq_false, isSendable_iff]
  have hsame : onTheLine message = message ↔
      message.toList.map (fun c => if c.toNat < 128 ∧ c ≠ '\n' then c else '?')
        = message.toList.map id := by
    unfold onTheLine
    rw [List.map_id, ← String.toList_inj, String.toList_ofList]
  rw [hsame, hcount, List.map_inj_left]
  refine forall₂_congr fun c _ => ?_
  by_cases hc : c.toNat < 128 ∧ c ≠ '\n'
  · simp [hc]
  · rw [if_neg hc]
    constructor
    · rintro rfl
      exact absurd (by decide) hc
    · exact fun h => absurd h hc

-- =========================================================== round trip

/-- Once no line is begun and nothing is to come but an end of the stream,
the link is found closed. -/
theorem receive_closed {link : Transport π} {arrival : Arrival} {rest : List Arrival}
    (hread : link.unread = []) (hinbox : link.inbox = arrival :: rest)
    (hend : arrival.isEnd = true) :
    endingOf (Exchange.receive.perform link) = .error .closed := by
  have hbegun : link.begun = [] := (List.append_eq_nil_iff.1 hread).1
  have hoperation := perform_read_run link
  rw [Transport.receive_run, hbegun, hinbox] at hoperation
  rw [show Exchange.receive.perform link = _ from hoperation]
  unfold Arrival.isEnd at hend
  split at hend
  · rfl
  · rfl
  · cases hend

/-- What has been heard and what is unread are the lines of the stream,
whatever its chunks and whatever failed on the way. -/
theorem framing_round_trip (link : Transport π) (hfresh : link.begun = [])
    (hends : EndsLast link.inbox) (n : Nat) :
    let run := callEach (List.replicate n .receive) link
    let texts := run.1.flatMap heardIn
    -- any bytes: a last piece without its line end is heard once the stream has ended
    texts ++ (linesOf run.2.unread).map Utf8.decodeLossy
        = (linesOf (bytesIn link.inbox)).map Utf8.decodeLossy
      ∧ (link.inbox.any Arrival.isEnd = true → weight link.inbox ≤ n → run.2.unread = []
        ∧ texts = (linesOf (bytesIn link.inbox)).map Utf8.decodeLossy)
      -- the frames of messages
      ∧ (∀ messages : List String,
          bytesIn link.inbox = messages.flatMap (fun m => (Frame.ofMessage m).bytes) →
          (run.2.unread = [] → texts = messages.map onTheLine)
          ∧ (weight link.inbox ≤ n → run.2.unread = []))
      ∧ (∀ message, onTheLine message = message ↔ (Frame.ofMessage message).replaced = 0)
      -- the end
      ∧ ∀ arrival rest, run.2.unread = [] → run.2.inbox = arrival :: rest →
          arrival.isEnd = true → endingOf (Exchange.receive.perform run.2) = .error .closed := by
  intro run texts
  have hbegun : lineEnd ∉ link.begun := by
    rw [hfresh]
    exact List.not_mem_nil
  have hreceived : Received n link texts run.2 := received_calls n hbegun hends
  have hunread : link.unread = bytesIn link.inbox := by
    unfold Transport.unread
    rw [hfresh, List.nil_append]
  have hlines := hreceived.lines
  have hall := hreceived.heard
  rw [hunread] at hlines hall
  refine ⟨hlines, ?_, ?_, onTheLine_eq_iff, fun _ _ => receive_closed⟩
  · intro hany hmany
    have hread : run.2.unread = [] := by
      rcases hreceived.used hmany with hread | hnone
      · exact hread
      · rcases hreceived.remains hany with hread | hany
        · exact hread
        · rw [hnone] at hany
          cases hany
    exact ⟨hread, hall hread⟩
  · intro messages hframes
    constructor
    · intro hread
      rw [hall hread, hframes, linesOf_frames, List.map_map]
      exact List.map_congr_left fun message _ => decodeLossy_sent message
    · intro hmany
      rcases hreceived.used hmany with hread | hnone
      · exact hread
      · exact hreceived.none_left (hunread.trans hframes) hnone

/-- Two messages in three chunks, which cut a line and cross a line end,
with a wait in vain and a failure in between. -/
theorem framing_round_trip_in_pieces :
    let messages := ["caf\u00e9", "12\n"]
    let inbox : List Arrival := [.chunk [0x63, 0x61], .silence, .chunk [0x66, 0x3F, 0x0A, 0x31],
      .failure ⟨.brokenPipe, "unplugged"⟩, .chunk [0x32, 0x3F, 0x0A], .theEnd]
    let link : Transport Outlet := { peer := {}, limit := ⟨1000⟩, inbox }
    let run := callEach (List.replicate 15 .receive) link
    EndsLast link.inbox
      ∧ bytesIn link.inbox = messages.flatMap (fun m => (Frame.ofMessage m).bytes)
      ∧ run.1.flatMap heardIn = ["caf?", "12?"]
      ∧ endingOf (Exchange.receive.perform run.2) = .error .closed := by
  intro messages inbox link run
  have hends : EndsLast link.inbox := by
    simp [link, inbox, EndsLast, Arrival.isEnd, bytesIn]
  have hframes : bytesIn link.inbox = messages.flatMap fun m => (Frame.ofMessage m).bytes := by
    decide +kernel
  obtain ⟨-, -, hmessages, -, hclosed⟩ := framing_round_trip link rfl hends 15
  obtain ⟨htexts, hread⟩ := hmessages messages hframes
  have hread : run.2.unread = [] := hread (by decide)
  refine ⟨hends, hframes, ?_, hclosed .theEnd [] hread (by decide +kernel) rfl⟩
  rw [show run.1.flatMap heardIn = _ from htexts hread]
  decide +kernel

end SerialEndpoint
