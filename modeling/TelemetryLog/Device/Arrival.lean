/-!
# What a stream gives

A device stream is a list of arrivals: what each of its reads will give, and the silences between
them.  A read gives at most one block, so a longer chunk of bytes arrives as several blocks.

## What is here

* `Arrival` — one thing that happens on the stream.
* `Arrival.ofChunk` — the blocks in which a chunk of bytes is read.

How bytes are spread over blocks is up to the stream.  It matters to one thing only, the check of
the length at the end of a block, and `Proofs.Device.Chunking` says exactly when.
-/

set_option autoImplicit false

namespace TelemetryLog
namespace Device

/-- One thing that happens on a stream. -/
inductive Arrival where
  /-- Bytes, as many as one read gives. -/
  | block (bytes : List UInt8)
  /-- Nothing for so many milliseconds, counted from when the reader gets here. -/
  | silence (ms : Nat)
  /-- A read that fails. -/
  | failure (detail : String)
  /-- A read at the end of the file; more may follow. -/
  | ended
deriving DecidableEq, Repr

namespace Arrival

/-- The most bytes that one read gives. -/
def blockSize : Nat := 8192

/-- The blocks of a chunk of bytes, in order. -/
def blocks (bs : List UInt8) : List Arrival :=
  if bs.isEmpty then [] else .block (bs.take blockSize) :: blocks (bs.drop blockSize)
termination_by bs.length
decreasing_by
  have : bs ≠ [] := by rintro rfl; simp_all
  have := List.length_pos_iff.2 this
  simp only [List.length_drop, blockSize]
  omega

/-- The reads of a chunk of bytes; a chunk of no bytes reads as an end of file. -/
def ofChunk (bs : List UInt8) : List Arrival := if bs.isEmpty then [.ended] else blocks bs

end Arrival
end Device
end TelemetryLog
