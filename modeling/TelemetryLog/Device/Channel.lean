import TelemetryLog.Device.Arrival
import TelemetryLog.Device.Framer
import TelemetryLog.Event
import TelemetryLog.Fault

/-!
# Reading lines from a device

A `Channel` turns a stream into lines.  Each call waits at most the read timeout; a call that times
out is not an error, and it loses nothing: the bytes of an unfinished line stay with the channel,
and a silence that has been waited for in part goes on where it was.

Time is counted in milliseconds and passes only in silences.  What becomes ready exactly at the
timeout is still taken, and a moment to stop at comes before everything else that is due then.

## What is here

* `Patience` — how long a call may still wait.
* `Channel`, `Channel.Reply`, `Channel.Read` — a channel and what a call returns.
* `Channel.read`, `Channel.readUntil` — one call, and one that a moment to stop at may cut short.

The waiting is part of the data: a silence is an arrival like any other, and `Patience.wait` decides
what a call makes of it.  So there are no threads and no clock here, and the one question about
concurrency, which of several things that are due at the same moment comes first, is answered in one
place.  What a real scheduler adds to a wait is left out; the times are those of a clock that
nothing delays.

A call is a recursion over the arrivals, because it reads block after block until a line is
complete.  That there are only so many calls before the stream is used up is shown in
`Device.Progress`.
-/

set_option autoImplicit false

namespace TelemetryLog
namespace Device

/-- How long a call may still wait. -/
structure Patience where
  /-- The time left until the call times out. -/
  left : Nat
  /-- The time left until the moment to stop at, if there is one. -/
  stop : Option Nat
  /-- The time that the call has waited. -/
  spent : Nat
deriving DecidableEq, Repr

/-- How waiting through a silence ends. -/
inductive Waited where
  /-- The silence is over. -/
  | through (p : Patience)
  /-- The call times out first. -/
  | timedOut
  /-- The moment to stop at comes first. -/
  | stopped (after : Nat)
deriving DecidableEq, Repr

namespace Patience

/-- The patience after waiting `ms` more. -/
def less (p : Patience) (ms : Nat) : Patience :=
  ⟨p.left - ms, p.stop.map (· - ms), p.spent + ms⟩

/-- Waits through a silence.  A silence of no length is no wait at all. -/
def wait (p : Patience) (ms : Nat) : Waited :=
  if ms = 0 then .through p
  else
    match p.stop with
    | some s =>
      if s ≤ ms && s ≤ p.left then .stopped s
      else if ms ≤ p.left then .through (p.less ms)
      else .timedOut
    | none => if ms ≤ p.left then .through (p.less ms) else .timedOut

end Patience

/-- A device stream that is read line by line. -/
structure Channel where
  /-- The name of the device. -/
  name : String
  /-- The longest that a call waits. -/
  timeout : Nat
  /-- What the stream has still to give. -/
  arrivals : List Arrival
  /-- What is left of the block that was read last. -/
  block : List UInt8 := []
  /-- The unfinished line. -/
  framer : Framer := {}
deriving DecidableEq, Repr

namespace Channel

/-- What a call returns. -/
inductive Reply where
  /-- A line. -/
  | line (text : String)
  /-- No line was complete in time. -/
  | idle
  /-- The stream failed or has ended. -/
  | failed (fault : Fault)
  /-- The moment to stop came. -/
  | stopped
deriving DecidableEq, Repr

/-- What came of a call. -/
structure Read where
  /-- What it returns. -/
  reply : Reply
  /-- The channel afterwards. -/
  channel : Channel
  /-- The time it took. -/
  elapsed : Nat
  /-- What it told, in order. -/
  events : List Event

/-- The event for a line that turned out to be too long. -/
def tooLongEvent (name : String) : Event :=
  ⟨.warn, .serial, "Discarding line over " ++ toString maxLine ++ " bytes from " ++ name⟩

/-- The event for giving the device back. -/
def releasedEvent (name : String) : Event := ⟨.debug, .serial, "Released serial device " ++ name⟩

/-- The number of bytes held for the unfinished line. -/
def held (c : Channel) : Nat := c.framer.held.size

/-- What an end of file means: the unfinished line is one after all, and without one the device is
gone. -/
def endOfFile (c : Channel) : Reply :=
  if c.framer.held.isEmpty || c.framer.dropping then .failed (.disconnected c.name)
  else .line (Utf8.lossyText c.framer.held.toList)

/-- The channel after a scan of its block. -/
def after (c : Channel) (s : Scan) : Channel := { c with framer := s.framer, block := s.rest }

/-- The events so far and those of a scan. -/
def tellScan (c : Channel) (events : List Event) (s : Scan) : List Event :=
  events ++ List.replicate s.tooLong (tooLongEvent c.name)

/-- Reads on, with the block and the unfinished line of `c`, in the arrivals of a stream. -/
def readFrom (c : Channel) (p : Patience) (events : List Event) (arrivals : List Arrival) : Read :=
  let s := c.framer.scan 0 c.block
  let events := c.tellScan events s
  let c := c.after s
  match s.line with
  | some bytes =>
    ⟨.line (Utf8.lossyText bytes), { c with arrivals := arrivals }, p.spent, events⟩
  | none =>
    match arrivals with
    | [] => ⟨c.endOfFile, { c with arrivals := [], framer := {} }, p.spent, events⟩
    | .ended :: more => ⟨c.endOfFile, { c with arrivals := more, framer := {} }, p.spent, events⟩
    | .failure detail :: more =>
      ⟨.failed (.serial (.cannotRead c.name detail)), { c with arrivals := more }, p.spent, events⟩
    | .block bs :: more => readFrom { c with block := bs } p events more
    | .silence ms :: more =>
      match p.wait ms with
      | .through q => readFrom c q events more
      | .timedOut =>
        ⟨.idle, { c with arrivals := .silence (ms - p.left) :: more }, p.spent + p.left, events⟩
      | .stopped moment =>
        ⟨.stopped, { c with arrivals := .silence (ms - moment) :: more }, p.spent + moment, events⟩

/-- One call, which may be cut short by a moment to stop at. -/
def readUntil (c : Channel) (stop : Option Nat) : Read :=
  readFrom c ⟨c.timeout, stop, 0⟩ [] c.arrivals

/-- One call. -/
def read (c : Channel) : Read := c.readUntil none

/-! ## The cases of a call

One equation for each kind of arrival, under the condition that no line is complete in the block.
Proofs about `readFrom` use these, or its induction principle, and do not unfold it. -/

section Cases

variable {c : Channel} {p : Patience} {events : List Event}

/-- A line in the block is returned at once. -/
theorem readFrom_of_line {bytes : List UInt8} {as : List Arrival}
    (h : (c.framer.scan 0 c.block).line = some bytes) :
    readFrom c p events as =
      ⟨.line (Utf8.lossyText bytes),
        { c.after (c.framer.scan 0 c.block) with arrivals := as }, p.spent,
        c.tellScan events (c.framer.scan 0 c.block)⟩ := by
  unfold readFrom; simp [h]

/-- After the last arrival the stream has ended. -/
theorem readFrom_nil (h : (c.framer.scan 0 c.block).line = none) :
    readFrom c p events [] =
      ⟨(c.after (c.framer.scan 0 c.block)).endOfFile,
        { c.after (c.framer.scan 0 c.block) with arrivals := [], framer := {} }, p.spent,
        c.tellScan events (c.framer.scan 0 c.block)⟩ := by
  unfold readFrom; simp [h]

theorem readFrom_ended {as : List Arrival} (h : (c.framer.scan 0 c.block).line = none) :
    readFrom c p events (.ended :: as) =
      ⟨(c.after (c.framer.scan 0 c.block)).endOfFile,
        { c.after (c.framer.scan 0 c.block) with arrivals := as, framer := {} }, p.spent,
        c.tellScan events (c.framer.scan 0 c.block)⟩ := by
  unfold readFrom; simp [h]

theorem readFrom_failure {detail : String} {as : List Arrival}
    (h : (c.framer.scan 0 c.block).line = none) :
    readFrom c p events (.failure detail :: as) =
      ⟨.failed (.serial (.cannotRead c.name detail)),
        { c.after (c.framer.scan 0 c.block) with arrivals := as }, p.spent,
        c.tellScan events (c.framer.scan 0 c.block)⟩ := by
  unfold readFrom; simp [h, after]

theorem readFrom_block {bs : List UInt8} {as : List Arrival}
    (h : (c.framer.scan 0 c.block).line = none) :
    readFrom c p events (.block bs :: as) =
      readFrom { c.after (c.framer.scan 0 c.block) with block := bs } p
        (c.tellScan events (c.framer.scan 0 c.block)) as := by
  rw [readFrom]; simp [h]

theorem readFrom_silence {ms : Nat} {as : List Arrival}
    (h : (c.framer.scan 0 c.block).line = none) :
    readFrom c p events (.silence ms :: as) =
      match p.wait ms with
      | .through q =>
        readFrom (c.after (c.framer.scan 0 c.block)) q
          (c.tellScan events (c.framer.scan 0 c.block)) as
      | .timedOut =>
        ⟨.idle,
          { c.after (c.framer.scan 0 c.block) with arrivals := .silence (ms - p.left) :: as },
          p.spent + p.left, c.tellScan events (c.framer.scan 0 c.block)⟩
      | .stopped moment =>
        ⟨.stopped,
          { c.after (c.framer.scan 0 c.block) with arrivals := .silence (ms - moment) :: as },
          p.spent + moment, c.tellScan events (c.framer.scan 0 c.block)⟩ := by
  rw [readFrom]; simp [h]

end Cases

end Channel
end Device
end TelemetryLog
