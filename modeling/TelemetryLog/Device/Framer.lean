import TelemetryLog.Csv.Row

/-!
# Cutting blocks into lines

A `Framer` holds the bytes of a line whose end has not come yet.  A line that gets too long is
dropped up to and including its line feed, and while it is being dropped nothing is held, so the
memory is bounded whatever the device sends.

The length is looked at in two places: at a line feed, where the line counts without its CR LF or
LF, and at the end of a block, where everything held counts.

## What is here

* `Framer.scan` — reads on in a block until a line is complete or the block is used up.
* `Framer.finish` — what a line feed completes.
* `Framer.settle` — the check at the end of a block.

The two places do not agree on one kind of line: one of exactly `maxLine` bytes whose carriage
return is the last byte of a block.  At the end of that block it counts as too long, although the
line feed would have shown that it is not.  This is kept as it is, and it is the exception in
`same_lines_iff_not_split`.

Bytes are held in an array, since they are added one at a time.  No text is made before a line is
complete, so a character that is cut in two by the end of a block is whole again when it is read.
-/

set_option autoImplicit false

namespace TelemetryLog
namespace Device

/-- The longest line that is kept, in bytes. -/
def maxLine : Nat := 65536

/-- The unfinished line of a stream. -/
structure Framer where
  /-- The bytes of the line so far. -/
  held : Array UInt8 := #[]
  /-- Is the line too long, so that the rest of it is dropped? -/
  dropping : Bool := false
deriving DecidableEq, Repr

/-- What a line feed completes. -/
inductive Ending where
  /-- A line, without its line end. -/
  | line (bytes : List UInt8)
  /-- A line that turns out to be too long. -/
  | tooLong
  /-- The rest of a line that was too long before. -/
  | rest
deriving DecidableEq, Repr

/-- What came of scanning a block. -/
structure Scan where
  /-- The framer afterwards. -/
  framer : Framer
  /-- The line that was completed, if one was. -/
  line : Option (List UInt8)
  /-- The bytes of the block after that line. -/
  rest : List UInt8
  /-- How many lines turned out to be too long. -/
  tooLong : Nat
deriving DecidableEq, Repr

namespace Framer

/-- Takes a byte that is not a line feed. -/
def push (f : Framer) (b : UInt8) : Framer :=
  if f.dropping then f else { f with held := f.held.push b }

/-- The line held, without the carriage return that belongs to its line end. -/
def content (f : Framer) : List UInt8 :=
  if f.held.back? = some Csv.cr then f.held.pop.toList else f.held.toList

/-- What a line feed completes. -/
def finish (f : Framer) : Ending :=
  if f.dropping then .rest
  else if maxLine < f.content.length then .tooLong
  else .line f.content

/-- The framer at the end of a block, and whether its line is too long from here on. -/
def settle (f : Framer) : Framer × Bool :=
  if maxLine < f.held.size then (⟨#[], true⟩, true) else (f, false)

/-- Reads on in a block until a line is complete or the block is used up. -/
def scan (f : Framer) (tooLong : Nat) : List UInt8 → Scan
  | [] => ⟨f.settle.1, none, [], tooLong + f.settle.2.toNat⟩
  | b :: bs =>
    if b = Csv.lf then
      match f.finish with
      | .line bytes => ⟨{}, some bytes, bs, tooLong⟩
      | .tooLong => scan {} (tooLong + 1) bs
      | .rest => scan {} tooLong bs
    else scan (f.push b) tooLong bs

theorem scan_rest_length_le (f : Framer) (n : Nat) (bs : List UInt8) :
    (f.scan n bs).rest.length ≤ bs.length := by
  fun_induction scan f n bs with
  | case1 => simp
  | case2 => simp
  | case3 _ _ _ _ ih => exact Nat.le_succ_of_le ih
  | case4 _ _ _ _ ih => exact Nat.le_succ_of_le ih
  | case5 _ _ _ _ _ ih => exact Nat.le_succ_of_le ih

/-- A line takes at least its line feed from the block. -/
theorem scan_rest_length_lt {f : Framer} {n : Nat} {bs line : List UInt8}
    (h : (f.scan n bs).line = some line) : (f.scan n bs).rest.length < bs.length := by
  fun_induction scan f n bs with
  | case1 => exact absurd h (by simp)
  | case2 => simp
  | case3 _ _ _ _ ih => exact Nat.lt_succ_of_lt (ih h)
  | case4 _ _ _ _ ih => exact Nat.lt_succ_of_lt (ih h)
  | case5 _ _ _ _ _ ih => exact Nat.lt_succ_of_lt (ih h)

/-- A block in which no line is complete is used up. -/
theorem scan_rest_eq_nil {f : Framer} {n : Nat} {bs : List UInt8}
    (h : (f.scan n bs).line = none) : (f.scan n bs).rest = [] := by
  fun_induction scan f n bs with
  | case1 => rfl
  | case2 => exact absurd h (by simp)
  | case3 _ _ _ _ ih => exact ih h
  | case4 _ _ _ _ ih => exact ih h
  | case5 _ _ _ _ _ ih => exact ih h

end Framer
end Device
end TelemetryLog
