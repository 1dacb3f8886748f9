import TelemetryLog.Device.Progress

/-!
# Where lines come from

A recorder reads lines from a device, or from a list of readings that was fixed beforehand.  Both
answer a call in the same way.

## What is here

* `Reading` — one entry of a fixed list.
* `Source` — a device or a fixed list; `Source.readUntil` is one call.
* `Source.work` — what is left to give; only a device whose timeout is zero can answer without
  using any of it up (`Source.work_lt_of_idle`).

A fixed list can say what no device does: it may fail for any reason, go on after a failure, and
answer idle as often as one likes.  So what is proved about all sources is also proved about sources
that are not modelled here, as far as their answers can be written down in advance.  It answers at
once, so no moment to stop can fall into one of its calls.
-/

set_option autoImplicit false

namespace TelemetryLog

open Device (Channel)

/-- One entry of a fixed list of readings. -/
inductive Reading where
  /-- A line. -/
  | line (text : String)
  /-- No line in time. -/
  | idle
  /-- A failure. -/
  | failed (fault : Fault)
deriving DecidableEq, Repr

/-- What the reading answers to a call. -/
def Reading.reply : Reading → Channel.Reply
  | .line text => .line text
  | .idle => .idle
  | .failed fault => .failed fault

/-- Where lines come from. -/
inductive Source where
  /-- A fixed list of readings; after the last one every call finds the device of this name gone. -/
  | replayed (readings : List Reading) (name : String)
  /-- A device. -/
  | device (channel : Channel)
deriving DecidableEq, Repr

namespace Source

/-- What came of a call. -/
structure Read where
  /-- The answer. -/
  reply : Channel.Reply
  /-- The source afterwards. -/
  source : Source
  /-- The time it took. -/
  elapsed : Nat
  /-- What it told, in order. -/
  events : List Event

/-- One call, which may be cut short by a moment to stop at; a fixed list answers at once. -/
def readUntil (s : Source) (stop : Option Nat) : Read :=
  match s with
  | .replayed [] name => ⟨.failed (.disconnected name), .replayed [] name, 0, []⟩
  | .replayed (r :: rs) name => ⟨r.reply, .replayed rs name, 0, []⟩
  | .device c =>
    let r := c.readUntil stop
    ⟨r.reply, .device r.channel, r.elapsed, r.events⟩

/-- What giving the source back tells. -/
def released : Source → List Event
  | .replayed .. => []
  | .device c => [Channel.releasedEvent c.name]

/-! ## Progress -/

/-- A bound for what the source has still to give. -/
def work : Source → Nat
  | .replayed readings _ => readings.length
  | .device c => c.work

/-- Does a call that finds nothing ready return at once, as if no time had passed? -/
def neverWaits : Source → Bool
  | .replayed .. => false
  | .device c => c.timeout == 0

theorem work_lt_of_line {s : Source} {stop : Option Nat} {text : String}
    (h : (s.readUntil stop).reply = .line text) : (s.readUntil stop).source.work < s.work := by
  match s with
  | .replayed [] _ => simp [readUntil] at h
  | .replayed (_ :: _) _ => simp [readUntil, work]
  | .device c => exact @Channel.work_lt_of_line c stop text h

/-- An idle call gives nothing new to do. -/
theorem work_le_of_idle {s : Source} {stop : Option Nat}
    (h : (s.readUntil stop).reply = .idle) : (s.readUntil stop).source.work ≤ s.work := by
  match s with
  | .replayed [] _ => simp [readUntil] at h
  | .replayed (_ :: _) _ => simp [readUntil, work]
  | .device c =>
    exact Nat.le_trans (Nat.le_add_right _ _) (@Channel.work_add_timeout_le_of_idle c stop h)

/-- An idle call uses something up, unless the source never waits. -/
theorem work_lt_of_idle {s : Source} {stop : Option Nat}
    (h : (s.readUntil stop).reply = .idle) (hw : s.neverWaits = false) :
    (s.readUntil stop).source.work < s.work := by
  match s with
  | .replayed [] _ => simp [readUntil] at h
  | .replayed (_ :: _) _ => simp [readUntil, work]
  | .device c =>
    have := @Channel.work_add_timeout_le_of_idle c stop h
    simp only [neverWaits, beq_eq_false_iff_ne] at hw
    simp only [readUntil, work]
    omega

end Source
end TelemetryLog
