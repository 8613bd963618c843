/-
The inbox: what comes in on a stream, and reading one line from it.

An inbox lists in order what the reads to come will find. Reading a line
goes on from the bytes already begun and takes arrivals until one of them
settles it; bytes behind the line end stay in the inbox, and bytes of a
line that is not complete are handed back. An inbox with nothing in it is
silence.
-/
import SerialEndpoint.Command
import SerialEndpoint.Fault

namespace SerialEndpoint

/-- What one read finds. -/
inductive Arrival where
  /-- Some bytes. No bytes at all read as the end of the stream, once. -/
  | chunk (bytes : List UInt8)
  | failure (fault : Fault)
  /-- Nothing comes before the time is over. -/
  | silence
  /-- The end of the stream, for this read and all later ones. -/
  | theEnd
deriving DecidableEq

/-- How reading a line ended. -/
inductive LineRead where
  /-- A line, without its line end. -/
  | line (bytes : List UInt8)
  | failure (fault : Fault)
  | silence
  | theEnd
deriving DecidableEq

/-- Reading a line: how it ended, the bytes of the line that is begun, and
what is still in the inbox. -/
structure Reading where
  outcome : LineRead
  begun : List UInt8
  inbox : List Arrival
deriving DecidableEq

/-- A chunk in front of an inbox, unless it is empty. -/
def putBack (bytes : List UInt8) (inbox : List Arrival) : List Arrival :=
  if bytes = [] then inbox else .chunk bytes :: inbox

/-- Reads up to the next line end. A call cut short is repeated. -/
def readLine (begun : List UInt8) : List Arrival → Reading
  | [] => ⟨.silence, begun, []⟩
  | .silence :: inbox => ⟨.silence, begun, inbox⟩
  | .theEnd :: inbox => ⟨.theEnd, begun, .theEnd :: inbox⟩
  | .failure fault :: inbox =>
    if fault.kind = .interrupted then readLine begun inbox else ⟨.failure fault, begun, inbox⟩
  | .chunk [] :: inbox => ⟨.theEnd, begun, inbox⟩
  | .chunk (byte :: bytes) :: inbox =>
    match (byte :: bytes).dropWhile (· ≠ lineEnd) with
    | [] => readLine (begun ++ byte :: bytes) inbox
    | _ :: rest =>
      ⟨.line (begun ++ (byte :: bytes).takeWhile (· ≠ lineEnd)), [], putBack rest inbox⟩

end SerialEndpoint
