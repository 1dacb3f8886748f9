import Mathlib.Algebra.GroupWithZero.Nat
import TelemetryLog.Device.Channel

/-!
# Scripts, and reading again and again

A `Signal` is one thing that a device does; a script is a list of them.  A chunk of bytes can be
longer than one read of the stream gives, so it reaches the channel in blocks.

The other half of the file is about calling a channel repeatedly: `Channel.replies c n` is what the
first `n` calls return, and `Channel.clock c n` is the time they take together.

Statements about devices are made about scripts and not about lists of arrivals.  A script cannot
say certain things that arrivals can: it has no block of more bytes than a read gives, and no chunk
without bytes, which would be an end of file.  Ends of file are signals of their own and may come
anywhere, and a device may go on after one; after its last signal a stream has ended for good.

How many calls are made is a number, and statements hold for each of them.  There is no notion of an
infinite run here: after the script every call finds the end of the file again, so nothing new can
come once enough calls have been made.
-/

set_option autoImplicit false

namespace TelemetryLog
namespace Device

/-! ## Scripts -/

/-- One thing that a device does. -/
inductive Signal where
  /-- It sends a chunk of bytes, at least one. -/
  | chunk (first : UInt8) (more : List UInt8)
  /-- It is silent for so many milliseconds. -/
  | silence (ms : Nat)
  /-- A read of it fails. -/
  | failure (detail : String)
  /-- A read of it finds the end of the file; more may follow. -/
  | ended
deriving DecidableEq, Repr

namespace Signal

/-- What the reads of the stream find of a signal. -/
def arrivals : Signal → List Arrival
  | .chunk first more => Arrival.ofChunk (first :: more)
  | .silence ms => [.silence ms]
  | .failure detail => [.failure detail]
  | .ended => [.ended]

/-- The time that passes in a signal. -/
def quietTime : Signal → Nat
  | .silence ms => ms
  | _ => 0

end Signal

namespace Arrival

/-- The time that passes in an arrival. -/
def quietTime : Arrival → Nat
  | .silence ms => ms
  | _ => 0

theorem blocks_nil : blocks [] = [] := by
  rw [blocks]
  rfl

theorem blocks_of_ne_nil {bs : List UInt8} (h : bs ≠ []) :
    blocks bs = .block (bs.take blockSize) :: blocks (bs.drop blockSize) := by
  rw [blocks, if_neg (by simpa using h)]

theorem quietTime_blocks (bs : List UInt8) : ((blocks bs).map quietTime).sum = 0 := by
  fun_induction blocks bs with
  | case1 => rfl
  | case2 bs _ ih => simpa [quietTime] using ih

end Arrival

theorem Signal.quietTime_arrivals (s : Signal) :
    (s.arrivals.map Arrival.quietTime).sum = s.quietTime := by
  cases s with
  | chunk first more => exact Arrival.quietTime_blocks (first :: more)
  | silence ms => rfl
  | failure detail => rfl
  | ended => rfl

namespace Channel

/-- A channel to a device that follows a script. -/
def ofScript (name : String) (timeout : Nat) (script : List Signal) : Channel :=
  { name := name, timeout := timeout, arrivals := script.flatMap Signal.arrivals }

/-- The time that passes in what the stream has still to give. -/
def quietTime (c : Channel) : Nat := (c.arrivals.map Arrival.quietTime).sum

theorem quietTime_ofScript (name : String) (timeout : Nat) (script : List Signal) :
    (ofScript name timeout script).quietTime = (script.map Signal.quietTime).sum := by
  show ((script.flatMap Signal.arrivals).map Arrival.quietTime).sum = _
  induction script with
  | nil => rfl
  | cons s script ih =>
    rw [List.flatMap_cons, List.map_append, List.sum_append_nat, s.quietTime_arrivals, ih,
      List.map_cons, List.sum_cons]

/-! ## Reading again and again -/

/-- The channel after `n` calls. -/
def later (c : Channel) : Nat → Channel
  | 0 => c
  | n + 1 => c.read.channel.later n

/-- What the first `n` calls return. -/
def replies (c : Channel) : Nat → List Reply
  | 0 => []
  | n + 1 => c.read.reply :: c.read.channel.replies n

/-- The time that the first `n` calls take together. -/
def clock (c : Channel) : Nat → Nat
  | 0 => 0
  | n + 1 => c.read.elapsed + c.read.channel.clock n

theorem length_replies (c : Channel) (n : Nat) : (c.replies n).length = n := by
  induction n generalizing c with
  | zero => rfl
  | succ n ih => rw [replies, List.length_cons, ih]

end Channel

end Device
end TelemetryLog
