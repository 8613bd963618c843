/-
Distances on their way from the board to the host. For a distance the
board replies with its digits, for a timeout with the token of its
settings (`act_distance`). The host takes its own token for a timeout, and
anything else for a distance if it can be read as a number.

# One token on both sides

Every reading comes back as it was (`ranges_survive`). The host takes the
blanks off the ends of a reply, and there are none: neither digits nor an
accepted token have any (`isBlank_digits`, `isBlank_token`). Then it compares
the reply with the token. An accepted token is no row of digits, so a
distance is never taken for a timeout (`not_denotes_token`), and digits are
read as their number.

On the way to the host the reply is one line of the board's output
(`hear_distance`). Over a stream it comes in as one chunk and is the line that
the host reads (`readLine_chunk`, `collect_wired`).

# Another token on the host

A timeout is unreadable then, unless the board's token can be read as a
number. Numbers are digits, perhaps with a plus sign in front, and below
2^32. Settings refuse a token of digits, but accept one that begins with a
plus sign. So just these tokens are read as a distance
(`timeout_read_iff`).
-/
import SerialEndpoint.Proofs.Device.Driving
import SerialEndpoint.Proofs.Number.Reading
import SerialEndpoint.Proofs.Replies

namespace SerialEndpoint

-- ============================================================= reading

/-- A text without blanks at its ends is read as it is. -/
theorem trimBlank_eq {text : String} (h : ∀ c ∈ text.toList, isBlank c = false) :
    trimBlank text = text := by
  have hfront : text.toList.dropWhile isBlank = text.toList := by
    rw [List.dropWhile_eq_self_iff]
    intro hlength
    rw [h _ (List.getElem_mem hlength)]
    exact Bool.false_ne_true
  have hback : text.toList.reverse.dropWhile isBlank = text.toList.reverse := by
    rw [List.dropWhile_eq_self_iff]
    intro hlength
    rw [h _ (List.mem_reverse.1 (List.getElem_mem hlength))]
    exact Bool.false_ne_true
  unfold trimBlank
  rw [hfront, hback, List.reverse_reverse, String.ofList_toList]

/-- No visible character is blank. -/
theorem isBlank_visible {c : Char} (hlow : 33 ≤ c.toNat) (hhigh : c.toNat ≤ 126) :
    isBlank c = false := by
  unfold isBlank
  simp only [Bool.or_eq_false_iff, Bool.and_eq_false_iff, beq_eq_false_iff_ne,
    decide_eq_false_iff_not]
  omega

theorem isBlank_digits (n : Nat) : ∀ c ∈ (toString n).toList, isBlank c = false := by
  intro c hc
  obtain ⟨hlow, hhigh⟩ := isDigit_bounds (isDigit_nat n c hc)
  exact isBlank_visible (by omega) (by omega)

/-- How a sensor reads a text without blanks. -/
theorem read_eq (sensor : DistanceSensor) {text : String}
    (h : ∀ c ∈ text.toList, isBlank c = false) :
    sensor.read text =
      if text = sensor.timeoutToken then .ok none
      else match readNatBelow? (2 ^ 32) text.toList with
        | some distance => .ok (some distance)
        | none => .error (.unreadable text) := by
  unfold DistanceSensor.read
  rw [trimBlank_eq h]
  rfl

-- ============================================================== tokens

section Tokens

variable {token : String} (h : isTimeoutToken token = true)

include h

theorem isBlank_token : ∀ c ∈ token.toList, isBlank c = false := by
  intro c hc
  unfold isTimeoutToken at h
  simp only [Bool.and_eq_true, List.all_eq_true, decide_eq_true_eq] at h
  obtain ⟨⟨⟨hlow, hhigh⟩, -⟩, -⟩ := h.1.2 c hc
  exact isBlank_visible hlow hhigh

/-- An accepted token is no row of digits. -/
theorem not_denotes_token (n : Nat) : ¬ Denotes token.toList n := by
  intro hdigits
  unfold isTimeoutToken at h
  rw [Bool.and_eq_true, List.all_eq_true.2 hdigits.all] at h
  exact absurd h.2 (by decide)

end Tokens

-- ============================================================= replies

/-- What is replied for a distance, and for none. -/
def Ranging.reply (ranging : Ranging) (range : Option UInt16) : String :=
  match range with
  | some distance => toString distance.toNat
  | none => ranging.timeoutToken

theorem act_distance (board : Board) {command : Command} (h : command.action = .readDistance) :
    board.act command
      = board.reply (board.circuit.ranging.reply (board.ranges command.component)) := by
  unfold Board.act
  rw [h]
  rfl

section Replies

variable {ranging : Ranging} (h : isTimeoutToken ranging.timeoutToken = true)

include h

theorem isPlain_rangingReply (range : Option UInt16) : IsPlain (ranging.reply range).toList := by
  cases range with
  | none => exact isPlain_token h
  | some distance => exact isPlain_digits distance.toNat

/-- A sensor with the token of the board reads what the board replies
for. -/
theorem read_rangingReply {sensor : DistanceSensor}
    (hsame : sensor.timeoutToken = ranging.timeoutToken) (range : Option UInt16) :
    sensor.read (ranging.reply range) = .ok (range.map UInt16.toNat) := by
  cases range with
  | none =>
      show sensor.read ranging.timeoutToken = _
      rw [read_eq sensor (isBlank_token h)]
      exact if_pos hsame.symm
  | some distance =>
      have hother : toString distance.toNat ≠ sensor.timeoutToken := by
        intro heq
        rw [hsame] at heq
        exact not_denotes_token h _ (heq ▸ denotes_digits distance.toNat)
      have hlt : distance.toNat < 2 ^ 32 := Nat.lt_trans distance.toNat_lt (by decide)
      show sensor.read (toString distance.toNat) = _
      rw [read_eq sensor (isBlank_digits _), if_neg hother, readNatBelow?_digits hlt]
      rfl

end Replies

/-- The command that asks a distance sensor. -/
theorem distance_command {a : Assignment} (h : a.kind = .distanceSensor) :
    ∃ command ∈ a.commands, command.operation = .collect ∧ command.action = .readDistance
      ∧ command.component = a.name := by
  have htable : a.commands = [⟨a.name, .collect, .distanceCollect, .readDistance⟩] := by
    unfold Assignment.commands
    rw [h]
  rw [htable]
  exact ⟨_, List.mem_singleton_self _, rfl, rfl, rfl⟩

/-- At rest the line of this command has the distance before its own sensor
written, and nothing else. -/
theorem hear_distance {circuit : Circuit} {assignments : List Assignment} {board : Board}
    (hs : Served assignments) (hcommands : circuit.commands = commandTable assignments)
    (hrest : board.AtRest circuit) {command : Command} (hc : command ∈ commandTable assignments)
    (hfits : command.line.length ≤ circuit.capacity) (haction : command.action = .readDistance) :
    (board.hear command.line).output
      = board.output ++ Utf8.encode (circuit.ranging.reply (board.ranges command.component))
        ++ [lineEnd] := by
  rw [hear_command hs hcommands hrest hc hfits, act_distance _ haction, ← hrest.circuit]
  rfl

-- ======================================================= a wired board

/-- A line that comes in as one chunk is read as a whole. -/
theorem readLine_chunk {line : List UInt8} (hline : lineEnd ∉ line) :
    readLine [] [.chunk (line ++ [lineEnd])] = ⟨.line line, [], []⟩ := by
  have hall : ∀ b ∈ line, decide (b ≠ lineEnd) = true :=
    fun b hb => decide_eq_true fun heq => hline (heq ▸ hb)
  have hrest : (line ++ [lineEnd]).dropWhile (· ≠ lineEnd) = [lineEnd] := by
    rw [List.dropWhile_append_of_pos hall]
    rfl
  have hfront : (line ++ [lineEnd]).takeWhile (· ≠ lineEnd) = line := by
    rw [List.takeWhile_append_of_pos hall]
    exact List.append_nil line
  cases hbytes : line ++ [lineEnd] with
  | nil => exact absurd hbytes (by simp)
  | cons byte bytes =>
      rw [hbytes] at hrest hfront
      rw [readLine, hrest, hfront]
      rfl

/-- Over a stream to a board a host hears the board's reply to the line it
sends. -/
theorem collect_wired {link : Transport WiredBoard} (h : Unhindered link)
    (hinbox : link.inbox = []) (hbegun : link.begun = []) {keymap : Keymap} {line : String}
    (hline : keymap.get? .collect = some line) {text : String} (hplain : IsPlain text.toList)
    (hreply : (link.peer.board.hear line).output = Utf8.encode text ++ [lineEnd]) :
    ∃ after, keymap.collect link = .ok text after := by
  have hsome : (link.peer.board.hear line).output ≠ [] := by
    rw [hreply]
    exact List.append_ne_nil_of_right_ne_nil _ (List.cons_ne_nil _ _)
  -- the board answers while the request is written, so the reply lies ready
  have hsend : ∃ between, Transport.send line link = .ok () between ∧ between.begun = []
      ∧ between.inbox = [.chunk (Utf8.encode text ++ [lineEnd])] := by
    rw [Transport.send_run]
    simp only [Transport.offered, offer_unhindered h line, if_neg hsome, hinbox, List.nil_append]
    exact ⟨_, rfl, hbegun, by rw [hreply]⟩
  obtain ⟨between, hsent, hbegun', hinbox'⟩ := hsend
  have hnever : lineEnd ∉ Utf8.encode text :=
    fun hmem => (encode_plain_bytes hplain _ hmem).1 rfl
  have hreceive : ∃ after, Transport.receive between = .ok text after := by
    rw [Transport.receive_run, hbegun', hinbox', readLine_chunk hnever]
    simp only [Utf8.decodeLossy_encode]
    exact ⟨_, rfl⟩
  obtain ⟨after, hreceived⟩ := hreceive
  have hasked : Link.sendThen line .receive link = .ok (some text) after := by
    show Transport.sendThen line .receive link = _
    rw [Transport.sendThen_receive_run, hsent]
    simp only [hreceived]
  refine ⟨after, ?_⟩
  unfold Keymap.collect Keymap.line
  rw [hline]
  simp only
  rw [bind_run]
  unfold OnLink.toDevice
  rw [hasked]
  rfl

-- ============================================================ survival

/-- Distances survive the way to the host. A board of the endpoint, at the
start of a line, with no motor waiting and nothing left to take, is sent
the line that a distance sensor's keymap has for asking. It writes one
line, and the host's sensor, with the token of the board, reads it as the
distance that was set, and as none for a timeout only. So does a sensor
that asks over a stream to this board. -/
theorem ranges_survive {generator : Generator} {agent : Agent} {artifacts : Artifacts}
    (hpools : generator.pools.Available) (hrender : generator.render agent = .ok artifacts)
    {a : Assignment} (ha : a ∈ artifacts.assignments) (hkind : a.kind = .distanceSensor)
    {file : KeymapFile} (hfile : file ∈ artifacts.keymaps) (howner : file.component = a.name)
    (hfits : ∀ line, file.keymap.get? .collect = some line →
      line.length ≤ generator.firmware.accumulatorSize)
    {before : Board} (hreaches : (generator.firmware.circuit artifacts.assignments).Reaches before)
    (hpending : before.pending = []) (hidle : before.waiting? = none) (houtput : before.output = [])
    (range : Option UInt16) :
    let board := before.setRange a.name range
    let sensor : DistanceSensor := ⟨file.keymap, generator.firmware.ranging.timeoutToken⟩
    ∃ line reply, file.keymap.get? .collect = some line
      ∧ (board.hear line).output = reply ++ [lineEnd] ∧ lineEnd ∉ reply
      ∧ sensor.read (Utf8.decodeLossy reply) = .ok (range.map UInt16.toNat)
      ∧ (sensor.read (Utf8.decodeLossy reply) = .ok none ↔ range = none)
      ∧ ∀ link : Transport WiredBoard, Unhindered link → link.peer.board = board →
          link.inbox = [] → link.begun = [] →
          ∃ after, sensor.collect link = .ok (range.map UInt16.toNat) after := by
  intro board sensor
  have hr := rendered_of_render hrender
  have hs := hr.served
  have htoken := token_of_accepted generator.accepted
  have hcommands : (generator.firmware.circuit artifacts.assignments).commands
      = commandTable artifacts.assignments := rfl
  have hbefore := atRest_of_reaches hs (hr.separate hpools) hcommands hreaches hpending hidle
  have hrest : board.AtRest (generator.firmware.circuit artifacts.assignments) :=
    ⟨hbefore.pending, hbefore.slots, hbefore.circuit⟩
  obtain ⟨command, hc, hoperation, haction, hname⟩ := distance_command hkind
  have hline : file.keymap.get? .collect = some command.line := by
    rw [hr.keymaps_eq] at hfile
    rw [keymap_of_owner hs hfile ha howner, ← hoperation]
    exact get?_ofCommands hc
  have hwritten := hear_distance hs hcommands hrest (List.mem_flatMap.2 ⟨a, ha, hc⟩)
    (hfits _ hline) haction
  rw [show board.output = [] from houtput, List.nil_append, hname,
    show board.ranges a.name = range from overlay_same ..] at hwritten
  have hplain := isPlain_rangingReply htoken range
  have hread : sensor.read (generator.firmware.ranging.reply range)
      = .ok (range.map UInt16.toNat) := read_rangingReply htoken rfl range
  refine ⟨command.line, _, hline, hwritten, fun hmem => (encode_plain_bytes hplain _ hmem).1 rfl,
    ?_⟩
  rw [show (generator.firmware.circuit artifacts.assignments).ranging = generator.firmware.ranging
    from rfl, Utf8.decodeLossy_encode, hread]
  refine ⟨rfl, ?_, ?_⟩
  · rw [Except.ok.injEq, Option.map_eq_none_iff]
  · intro link hlink hboard hinbox hbegun
    rw [← hboard] at hwritten
    obtain ⟨after, hcollect⟩ := collect_wired hlink hinbox hbegun hline hplain hwritten
    refine ⟨after, ?_⟩
    unfold DistanceSensor.collect
    rw [bind_run, hcollect]
    simp only [hread]
    rfl

/-- The keymap of the robot's distance sensor. -/
def roverFrontKeymap : KeymapFile :=
  ⟨"Front", "vl53l0x_Front_keymap.json",
    Keymap.ofCommands [⟨"Front", .collect, .distanceCollect, .readDistance⟩]⟩

/-- A distance of 412 millimetres before the robot, over a stream to its
board. -/
theorem ranges_survive_rover :
    let firmware : Firmware := { ranging := { timeoutToken := "+5" } }
    let board := (firmware.circuit roverAssignments).start.setRange "Front" (some 412)
    let link : Transport WiredBoard := { peer := { board }, limit := ⟨1000⟩ }
    roverFrontKeymap ∈ (roverArtifacts firmware).keymaps
      ∧ ∃ after, DistanceSensor.collect ⟨roverFrontKeymap.keymap, "+5"⟩ link
          = .ok (some 412) after := by
  intro firmware board link
  have haccepted : firmware.refusal? = none := by decide +kernel
  have hrender : Generator.render ⟨.uno, firmware, haccepted⟩ rover
      = .ok (roverArtifacts firmware) := render_rover rfl
  have hfile : roverFrontKeymap ∈ (roverArtifacts firmware).keymaps :=
    List.mem_of_getElem? (i := 4) rfl
  have hfits : ∀ line, roverFrontKeymap.keymap.get? .collect = some line → line.length ≤ 64 := by
    intro line hline
    obtain rfl : "VL53L0X_COLLECT Front" = line :=
      Option.some_inj.1 ((show _ = some "VL53L0X_COLLECT Front" by decide).symm.trans hline)
    decide
  obtain ⟨line, reply, -, -, -, -, -, hcollect⟩ := ranges_survive (.own .uno) hrender
    (List.mem_of_getElem? (i := 4) rfl) rfl hfile rfl hfits ⟨[], rfl⟩ rfl (start_idle _) rfl
    (some 412)
  exact ⟨hfile, hcollect link rfl rfl rfl rfl⟩

-- ============================================================ timeouts

/-- What the host makes of a timeout. The board writes its token, which is
read as a timeout by the sensors with the same token. A sensor with another
one reads it as a distance exactly if it is a plus sign and digits, of a
number below 2^32; else it finds the token unreadable. -/
theorem timeout_read_iff {firmware : Firmware} (haccepted : firmware.refusal? = none)
    {board : Board} (hsettings : board.circuit.ranging = firmware.ranging) {command : Command}
    (hdistance : command.action = .readDistance)
    (htimeout : board.ranges command.component = none) (sensor : DistanceSensor) :
    let token := firmware.ranging.timeoutToken
    ∃ reply, (board.act command).output = board.output ++ reply ++ [lineEnd] ∧ lineEnd ∉ reply
      ∧ (sensor.read (Utf8.decodeLossy reply) = .ok none ↔ token = sensor.timeoutToken)
      ∧ (∀ distance, sensor.read (Utf8.decodeLossy reply) = .ok (some distance) ↔
          token ≠ sensor.timeoutToken ∧ distance < 2 ^ 32
            ∧ ∃ digits, token.toList = '+' :: digits ∧ Denotes digits distance)
      ∧ ∀ fault, sensor.read (Utf8.decodeLossy reply) = .error fault →
          fault = .unreadable token := by
  intro token
  have htoken : isTimeoutToken token = true := token_of_accepted haccepted
  have hplain : IsPlain token.toList := isPlain_token htoken
  have hwritten : (board.act command).output
      = board.output ++ Utf8.encode token ++ [lineEnd] := by
    rw [act_distance _ hdistance, htimeout, hsettings]
    rfl
  have hnumber : ∀ distance, readNatBelow? (2 ^ 32) token.toList = some distance ↔
      distance < 2 ^ 32 ∧ ∃ digits, token.toList = '+' :: digits ∧ Denotes digits distance := by
    intro distance
    rw [readNatBelow?_eq_some_iff, or_iff_right (not_denotes_token htoken distance)]
  refine ⟨_, hwritten, fun hmem => (encode_plain_bytes hplain _ hmem).1 rfl, ?_⟩
  rw [Utf8.decodeLossy_encode, read_eq sensor (isBlank_token htoken)]
  by_cases hsame : token = sensor.timeoutToken
  · simp [hsame]
  · simp only [hsame, ne_eq, not_false_eq_true, true_and, iff_false, ← hnumber]
    cases readNatBelow? (2 ^ 32) token.toList with
    | some distance => simp
    | none => simp

/-- A token with a plus sign before letters: the host's sensor, which has
the usual token, finds it unreadable. -/
theorem timeout_read_iff_letters :
    let firmware : Firmware := { ranging := { timeoutToken := "+far" } }
    let board := (firmware.circuit roverAssignments).start
    let sensor : DistanceSensor := { keymap := roverFrontKeymap.keymap }
    firmware.refusal? = none ∧ sensor.timeoutToken = "TIMEOUT"
      ∧ ∃ reply, (board.hear "VL53L0X_COLLECT Front").output = reply ++ [lineEnd]
        ∧ sensor.read (Utf8.decodeLossy reply) = .error (.unreadable "+far") := by
  intro firmware board sensor
  have haccepted : firmware.refusal? = none := by decide +kernel
  let command : Command := ⟨"Front", .collect, .distanceCollect, .readDistance⟩
  obtain ⟨reply, hwritten, -, hnone, hsome, herror⟩ :=
    timeout_read_iff haccepted (show board.circuit.ranging = firmware.ranging from rfl)
      (show command.action = .readDistance from rfl)
      (show board.ranges command.component = none from rfl) sensor
  have hheard : (board.hear "VL53L0X_COLLECT Front").output = (board.act command).output := by
    decide +kernel
  refine ⟨haccepted, rfl, reply, hheard.trans hwritten, ?_⟩
  cases hread : sensor.read (Utf8.decodeLossy reply) with
  | error fault => rw [herror fault hread]
  | ok distance =>
      cases distance with
      | none => exact absurd (hnone.1 hread) (by decide)
      | some distance =>
          obtain ⟨-, -, digits, htoken, hdigits⟩ := (hsome distance).1 hread
          have hletter : 'f' ∈ ("+far".toList).tail := by decide
          rw [show "+far".toList = '+' :: digits from htoken] at hletter
          exact absurd (hdigits.all 'f' hletter) (by decide)

/-- Settings accept a token that is a number with a sign. A sensor with the
usual token then takes a timeout for five millimetres. -/
theorem signed_token_taken_for_distance :
    let firmware : Firmware := { ranging := { timeoutToken := "+5" } }
    let board := (firmware.circuit roverAssignments).start
    let sensor : DistanceSensor := { keymap := roverFrontKeymap.keymap }
    firmware.refusal? = none ∧ board.ranges "Front" = none
      ∧ (board.hear "VL53L0X_COLLECT Front").output = Utf8.encode "+5" ++ [lineEnd]
      ∧ sensor.read (Utf8.decodeLossy (Utf8.encode "+5")) = .ok (some 5) := by
  decide +kernel

end SerialEndpoint
