/-
Lines in a stream of bytes, and reading them one at a time.

# Lines

Line ends cut some bytes into lines that have ended and a piece behind the
last of them, which may be empty (`endedLines`, `unfinished`). Both are read
off from the front: either there is no line end, or the bytes begin with a
line and its end and the rest is shorter (`lineInduction`). Bytes that come
later only go on with the unfinished piece (`endedLines_append`), so a stream
is cut alike however long one waits with cutting it.

`linesOf` is what a stream comes to that has ended: its last piece is a line
too, unless it is empty.

# Reading a line

Reading a line from an inbox takes arrivals until one of them settles it.
All that the rest of the theory needs to know of it is gathered in `ReadsLine`:

- no byte gets lost or made up, whatever ends the read;
- a line that is delivered has no line end in it, so it is the first of the
  lines that were to be read, and nothing is begun behind it;
- a read fails only where there is a failure, and meets the end of the stream
  only where there is one; then all is read, provided that no byte comes
  behind an end (`EndsLast`);
- every read uses up some of the inbox, unless it is at the end (`weight`).

`readLine_reads` is by induction on the inbox. The first arrival settles a
line, and the bytes behind it are put back (`ReadsLine.settled`); or it is an
end of the stream; or the read comes to nothing with it, and what was begun
is handed back (`ReadsLine.held`); or it is passed over and its bytes are
begun from then on (`ReadsLine.behind`), which is the step of the induction.
-/
import Mathlib.Data.List.TakeWhile
import SerialEndpoint.Link.Inbox

namespace SerialEndpoint

-- ================================================================ lines

/-- The lines that have ended in some bytes. -/
def endedLines (bytes : List UInt8) : List (List UInt8) := (bytes.splitOn lineEnd).dropLast

/-- What stands behind the last line end. -/
def unfinished (bytes : List UInt8) : List UInt8 := (bytes.splitOn lineEnd).getLast?.getD []

/-- A line with its end. -/
def withEnd (line : List UInt8) : List UInt8 := line ++ [lineEnd]

theorem splitOn_line {line : List UInt8} (hline : lineEnd ∉ line) (rest : List UInt8) :
    (line ++ lineEnd :: rest).splitOn lineEnd = line :: rest.splitOn lineEnd := by
  apply List.splitOnP_append_cons_of_forall_mem
  · intro byte hbyte
    rw [beq_eq_false_iff_ne]
    exact fun heq => hline (heq ▸ hbyte)
  · exact beq_self_eq_true _

theorem endedLines_line {line : List UInt8} (hline : lineEnd ∉ line) (rest : List UInt8) :
    endedLines (line ++ lineEnd :: rest) = line :: endedLines rest := by
  unfold endedLines
  rw [splitOn_line hline, List.dropLast_cons_of_ne_nil (List.splitOn_ne_nil _ _)]

theorem unfinished_line {line : List UInt8} (hline : lineEnd ∉ line) (rest : List UInt8) :
    unfinished (line ++ lineEnd :: rest) = unfinished rest := by
  unfold unfinished
  rw [splitOn_line hline, List.getLast?_cons_of_ne_nil (List.splitOn_ne_nil _ _)]

theorem endedLines_open {bytes : List UInt8} (hopen : lineEnd ∉ bytes) :
    endedLines bytes = [] := by
  unfold endedLines
  rw [List.splitOn_eq_singleton hopen]
  rfl

theorem unfinished_open {bytes : List UInt8} (hopen : lineEnd ∉ bytes) :
    unfinished bytes = bytes := by
  unfold unfinished
  rw [List.splitOn_eq_singleton hopen]
  rfl

/-- Some bytes have no line end, or they begin with a line and its end. -/
theorem lineInduction {P : List UInt8 → Prop}
    (hopen : ∀ bytes, lineEnd ∉ bytes → P bytes)
    (hline : ∀ line rest, lineEnd ∉ line → P rest → P (line ++ lineEnd :: rest))
    (bytes : List UInt8) : P bytes := by
  generalize hlength : bytes.length = length
  induction length using Nat.strongRecOn generalizing bytes with
  | ind length ih =>
      by_cases hends : lineEnd ∈ bytes
      · obtain ⟨line, rest, rfl, hnone⟩ := List.eq_append_cons_of_mem hends
        apply hline line rest hnone
        apply ih rest.length _ rest rfl
        rw [← hlength, List.length_append, List.length_cons]
        omega
      · exact hopen bytes hends

/-- Bytes are their lines and what stands behind them; no line has a line
end in it. -/
theorem lines_unfinished (bytes : List UInt8) :
    (endedLines bytes).flatMap withEnd ++ unfinished bytes = bytes
      ∧ (∀ line ∈ endedLines bytes, lineEnd ∉ line) ∧ lineEnd ∉ unfinished bytes := by
  induction bytes using lineInduction with
  | hopen bytes hopen =>
      rw [endedLines_open hopen, unfinished_open hopen]
      exact ⟨rfl, fun line hline => absurd hline List.not_mem_nil, hopen⟩
  | hline line rest hline ih =>
      obtain ⟨hwhole, hlines, hlast⟩ := ih
      rw [endedLines_line hline, unfinished_line hline]
      refine ⟨?_, ?_, hlast⟩
      · rw [List.flatMap_cons, List.append_assoc, hwhole]
        unfold withEnd
        rw [List.append_assoc]
        rfl
      · intro l hl
        rcases List.mem_cons.1 hl with rfl | hl
        · exact hline
        · exact hlines l hl

/-- Lines with their ends, whatever comes behind them, have ended. -/
theorem lines_withEnd {lines : List (List UInt8)} (h : ∀ line ∈ lines, lineEnd ∉ line)
    (rest : List UInt8) :
    endedLines (lines.flatMap withEnd ++ rest) = lines ++ endedLines rest
      ∧ unfinished (lines.flatMap withEnd ++ rest) = unfinished rest := by
  induction lines with
  | nil => exact ⟨rfl, rfl⟩
  | cons line more ih =>
      have hline := h line (List.mem_cons_self ..)
      obtain ⟨hended, hleft⟩ := ih fun l hl => h l (List.mem_cons_of_mem _ hl)
      rw [List.flatMap_cons, withEnd, List.append_assoc, List.append_assoc,
        List.singleton_append, endedLines_line hline, unfinished_line hline, hended, hleft]
      exact ⟨rfl, rfl⟩

/-- Bytes that come later go on with the unfinished piece. -/
theorem endedLines_append (bytes more : List UInt8) :
    endedLines (bytes ++ more) = endedLines bytes ++ endedLines (unfinished bytes ++ more)
      ∧ unfinished (bytes ++ more) = unfinished (unfinished bytes ++ more) := by
  induction bytes using lineInduction with
  | hopen bytes hopen =>
      rw [endedLines_open hopen, unfinished_open hopen]
      exact ⟨rfl, rfl⟩
  | hline line rest hline ih =>
      rw [List.append_assoc, List.cons_append, endedLines_line hline, endedLines_line hline,
        unfinished_line hline, unfinished_line hline, ih.1, ih.2]
      exact ⟨rfl, rfl⟩

/-- The lines that a stream has in all, once it has ended: what stands
behind the last line end is one too, unless it is empty. -/
def linesOf (bytes : List UInt8) : List (List UInt8) :=
  if unfinished bytes = [] then endedLines bytes else endedLines bytes ++ [unfinished bytes]

theorem linesOf_nil : linesOf [] = [] := rfl

theorem linesOf_line {line : List UInt8} (hline : lineEnd ∉ line) (rest : List UInt8) :
    linesOf (line ++ lineEnd :: rest) = line :: linesOf rest := by
  unfold linesOf
  rw [unfinished_line hline, endedLines_line hline]
  split
  · rfl
  · rfl

theorem linesOf_open {bytes : List UInt8} (hopen : lineEnd ∉ bytes) (hsome : bytes ≠ []) :
    linesOf bytes = [bytes] := by
  unfold linesOf
  rw [unfinished_open hopen, endedLines_open hopen, if_neg hsome]
  rfl

/-- Lines with their ends, one after the other, are read back. -/
theorem linesOf_withEnd {lines : List (List UInt8)} (h : ∀ line ∈ lines, lineEnd ∉ line) :
    linesOf (lines.flatMap withEnd) = lines := by
  have hlines := lines_withEnd h []
  rw [List.append_nil] at hlines
  unfold linesOf
  rw [hlines.1, hlines.2]
  exact List.append_nil lines

/-- Lines with their ends that are in front of other such lines are the
first of these. -/
theorem prefix_of_withEnd {lines all : List (List UInt8)} (hlines : ∀ line ∈ lines, lineEnd ∉ line)
    (hall : ∀ line ∈ all, lineEnd ∉ line) (h : lines.flatMap withEnd <+: all.flatMap withEnd) :
    lines <+: all := by
  obtain ⟨rest, hwhole⟩ := h
  have hended := congrArg endedLines hwhole
  rw [(lines_withEnd hlines rest).1, ← List.append_nil (all.flatMap withEnd),
    (lines_withEnd hall []).1] at hended
  exact ⟨endedLines rest, hended.trans (List.append_nil all)⟩

-- ============================================================= arrivals

/-- The bytes that an arrival brings. -/
def Arrival.bytes : Arrival → List UInt8
  | chunk bytes => bytes
  | _ => []

/-- True of an arrival that is an end of the stream. -/
def Arrival.isEnd : Arrival → Bool
  | chunk [] => true
  | theEnd => true
  | _ => false

/-- The bytes in an inbox. -/
def bytesIn (inbox : List Arrival) : List UInt8 := inbox.flatMap Arrival.bytes

/-- No byte comes behind an end of the stream. -/
def EndsLast : List Arrival → Prop
  | [] => True
  | arrival :: rest => (arrival.isEnd = true → bytesIn rest = []) ∧ EndsLast rest

/-- How much there is in an inbox to be used up by reading. -/
def weight (inbox : List Arrival) : Nat := inbox.length + (bytesIn inbox).length

theorem bytesIn_cons (arrival : Arrival) (rest : List Arrival) :
    bytesIn (arrival :: rest) = arrival.bytes ++ bytesIn rest := List.flatMap_cons

theorem bytesIn_append (inbox more : List Arrival) :
    bytesIn (inbox ++ more) = bytesIn inbox ++ bytesIn more := List.flatMap_append

theorem weight_cons (arrival : Arrival) (rest : List Arrival) :
    weight (arrival :: rest) = weight rest + arrival.bytes.length + 1 := by
  unfold weight
  rw [bytesIn_cons, List.length_cons, List.length_append]
  omega

theorem bytesIn_putBack (bytes : List UInt8) (inbox : List Arrival) :
    bytesIn (putBack bytes inbox) = bytes ++ bytesIn inbox := by
  unfold putBack
  split
  · rename_i hnone
    rw [hnone, List.nil_append]
  · rfl

theorem endsLast_putBack {inbox : List Arrival} (h : EndsLast inbox) (bytes : List UInt8) :
    EndsLast (putBack bytes inbox) := by
  unfold putBack
  split
  · exact h
  · rename_i hsome
    cases bytes with
    | nil => exact absurd rfl hsome
    | cons byte bytes => exact ⟨fun hend => (Bool.false_ne_true hend).elim, h⟩

theorem any_isEnd_putBack (bytes : List UInt8) (inbox : List Arrival) :
    (putBack bytes inbox).any Arrival.isEnd = inbox.any Arrival.isEnd := by
  unfold putBack
  split
  · rfl
  · cases bytes with
    | nil => contradiction
    | cons byte bytes => rfl

theorem weight_putBack (bytes : List UInt8) (inbox : List Arrival) :
    weight (putBack bytes inbox) ≤ weight inbox + bytes.length + 1 := by
  unfold putBack
  split
  · omega
  · rw [weight_cons]
    exact Nat.le_refl _

-- ======================================================== reading a line

/-- The bytes that a read delivers, with the line end that closes them. -/
def LineRead.delivered : LineRead → List UInt8
  | line bytes => withEnd bytes
  | _ => []

/-- What reading a line from an inbox comes to, with some bytes of it
begun. -/
structure ReadsLine (begun : List UInt8) (inbox : List Arrival) (reading : Reading) : Prop where
  /-- No byte is lost or made up. -/
  bytes : reading.outcome.delivered ++ (reading.begun ++ bytesIn reading.inbox)
    = begun ++ bytesIn inbox
  line {bytes : List UInt8} (h : reading.outcome = .line bytes) :
    reading.begun = [] ∧ (lineEnd ∉ begun → lineEnd ∉ bytes)
  /-- A read fails only where there is a failure. -/
  failed {fault : Fault} (h : reading.outcome = .failure fault) : .failure fault ∈ inbox
  begun : lineEnd ∉ begun → lineEnd ∉ reading.begun
  ends : EndsLast inbox → EndsLast reading.inbox
  /-- At an end of the stream all is read. -/
  atEnd : EndsLast inbox → reading.outcome = .theEnd → bytesIn reading.inbox = []
  /-- An end of the stream is met only if there is one. -/
  met : reading.outcome = .theEnd → inbox.any Arrival.isEnd = true
  remains : reading.outcome = .theEnd
    ∨ reading.inbox.any Arrival.isEnd = inbox.any Arrival.isEnd
  /-- Something is used up, if there is anything, except at the end. -/
  progress : reading.outcome = .theEnd ∨ weight reading.inbox ≤ weight inbox - 1

/-- What does not settle a line is passed over, and its bytes are kept. -/
theorem ReadsLine.behind {begun : List UInt8} {arrival : Arrival} {rest : List Arrival}
    {reading : Reading} (hopen : arrival.isEnd = false) (hbytes : lineEnd ∉ arrival.bytes)
    (h : ReadsLine (begun ++ arrival.bytes) rest reading) :
    ReadsLine begun (arrival :: rest) reading := by
  have hboth : lineEnd ∉ begun → lineEnd ∉ begun ++ arrival.bytes :=
    fun hbegun => List.not_mem_append hbegun hbytes
  constructor
  case bytes => rw [h.bytes, bytesIn_cons, List.append_assoc]
  case line =>
    intro bytes houtcome
    exact ⟨(h.line houtcome).1, fun hbegun => (h.line houtcome).2 (hboth hbegun)⟩
  case failed => exact fun houtcome => List.mem_cons_of_mem _ (h.failed houtcome)
  case begun => exact fun hbegun => h.begun (hboth hbegun)
  case ends => exact fun hends => h.ends hends.2
  case atEnd => exact fun hends => h.atEnd hends.2
  case met =>
    rw [List.any_cons, hopen, Bool.false_or]
    exact h.met
  case remains =>
    rw [List.any_cons, hopen, Bool.false_or]
    exact h.remains
  case progress =>
    rw [weight_cons]
    rcases h.progress with hend | hless
    · exact .inl hend
    · right
      omega

/-- A read that comes to nothing hands back what was begun. -/
theorem ReadsLine.held {outcome : LineRead} (hnothing : outcome.delivered = [])
    (hend : outcome ≠ .theEnd) {begun : List UInt8} {arrival : Arrival}
    (hfailed : ∀ fault, outcome = .failure fault → arrival = .failure fault)
    (hopen : arrival.isEnd = false) (hbytes : arrival.bytes = []) (rest : List Arrival) :
    ReadsLine begun (arrival :: rest) ⟨outcome, begun, rest⟩ where
  bytes := by
    rw [hnothing, bytesIn_cons, hbytes]
    rfl
  line houtcome := by
    subst houtcome
    exact absurd hnothing (by simp [LineRead.delivered, withEnd])
  failed houtcome := hfailed _ houtcome ▸ List.mem_cons_self ..
  begun hbegun := hbegun
  ends hends := hends.2
  atEnd _ houtcome := absurd houtcome hend
  met houtcome := absurd houtcome hend
  remains := by
    rw [List.any_cons, hopen, Bool.false_or]
    exact .inr rfl
  progress := by
    right
    show weight rest ≤ weight (arrival :: rest) - 1
    rw [weight_cons]
    omega

/-- A chunk with a line end in it settles a line; the bytes behind it are
put back. -/
theorem ReadsLine.settled {begun line more : List UInt8} (hline : lineEnd ∉ line)
    (rest : List Arrival) :
    ReadsLine begun (.chunk (line ++ lineEnd :: more) :: rest)
      ⟨.line (begun ++ line), [], putBack more rest⟩ where
  bytes := by
    show begun ++ line ++ [lineEnd] ++ bytesIn (putBack more rest) = _
    rw [bytesIn_putBack, bytesIn_cons]
    show _ = begun ++ (line ++ lineEnd :: more ++ bytesIn rest)
    simp only [List.append_assoc, List.cons_append, List.nil_append]
  line houtcome := by
    injection houtcome with heq
    subst heq
    exact ⟨rfl, fun hbegun => List.not_mem_append hbegun hline⟩
  failed houtcome := by cases houtcome
  begun _ := List.not_mem_nil
  ends hends := endsLast_putBack hends.2 more
  atEnd _ houtcome := by cases houtcome
  met houtcome := by cases houtcome
  remains := by
    right
    have hopen : (Arrival.chunk (line ++ lineEnd :: more)).isEnd = false := by
      cases line <;> rfl
    rw [List.any_cons, hopen, Bool.false_or]
    exact any_isEnd_putBack more rest
  progress := by
    right
    have hback := weight_putBack more rest
    rw [weight_cons]
    simp only [Arrival.bytes, List.length_append, List.length_cons]
    omega

/-- Bytes up to a line end, and what comes behind it. -/
theorem eq_of_dropWhile {bytes rest : List UInt8} {first : UInt8}
    (h : bytes.dropWhile (· ≠ lineEnd) = first :: rest) :
    bytes = bytes.takeWhile (· ≠ lineEnd) ++ lineEnd :: rest := by
  have hfirst : first = lineEnd := by
    have hstops := List.head?_dropWhile_not (· ≠ lineEnd) bytes
    rw [h] at hstops
    simpa using hstops
  subst hfirst
  rw [← h, List.takeWhile_append_dropWhile]

theorem readLine_reads (begun : List UInt8) (inbox : List Arrival) :
    ReadsLine begun inbox (readLine begun inbox) := by
  induction inbox generalizing begun with
  | nil =>
      refine ⟨rfl, ?_, ?_, id, id, ?_, ?_, .inr rfl, .inr (Nat.zero_le _)⟩
      · intro bytes houtcome
        cases houtcome
      · intro fault houtcome
        cases houtcome
      · intro _ houtcome
        cases houtcome
      · intro houtcome
        cases houtcome
  | cons arrival rest ih =>
      cases arrival with
      | silence => exact .held rfl (by simp) (by simp) rfl rfl rest
      | theEnd =>
          refine ⟨rfl, ?_, ?_, id, id, ?_, fun _ => rfl, .inl rfl, .inl rfl⟩
          · intro bytes houtcome
            cases houtcome
          · intro fault houtcome
            cases houtcome
          · intro hends _
            exact hends.1 rfl
      | failure fault =>
          rw [readLine]
          split
          -- an interruption is passed over, with the same bytes begun
          · apply ReadsLine.behind rfl List.not_mem_nil
            rw [show begun ++ Arrival.bytes (.failure fault) = begun from List.append_nil _]
            exact ih begun
          · exact .held rfl (by simp) (by simp) rfl rfl rest
      | chunk bytes =>
          cases bytes with
          | nil =>
              refine ⟨rfl, ?_, ?_, id, fun hends => hends.2, fun hends _ => hends.1 rfl,
                fun _ => rfl, .inl rfl, .inl rfl⟩
              · intro bytes houtcome
                cases houtcome
              · intro fault houtcome
                cases houtcome
          | cons byte bytes =>
              rw [readLine]
              cases hdrop : (byte :: bytes).dropWhile (· ≠ lineEnd) with
              | nil =>
                  -- no line end in this chunk, so all of it is begun
                  refine ReadsLine.behind rfl ?_ (ih _)
                  intro hmem
                  have hall := List.dropWhile_eq_nil_iff.1 hdrop lineEnd hmem
                  simp at hall
              | cons first more =>
                  -- the chunk is cut behind its first line end
                  have hline : lineEnd ∉ (byte :: bytes).takeWhile (· ≠ lineEnd) := by
                    intro hmem
                    have hall := List.mem_takeWhile_imp hmem
                    simp at hall
                  have hsettled : ReadsLine begun (.chunk (_ ++ lineEnd :: more) :: rest) _ :=
                    .settled hline rest
                  rw [← eq_of_dropWhile hdrop] at hsettled
                  exact hsettled

end SerialEndpoint
