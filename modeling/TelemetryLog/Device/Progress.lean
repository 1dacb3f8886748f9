import TelemetryLog.Device.Channel

/-!
# How long a stream can keep a reader busy

`Channel.work` bounds what a channel still has to give.  A call that returns a line uses some of it
up (`work_lt_of_line`), and an idle call uses up at least the time it waited
(`work_add_timeout_le_of_idle`).  So only a channel whose timeout is zero can be idle for ever.

The recorder calls a channel again and again until it fails, and this is why that comes to an end:
it fails at the latest when all arrivals are used up.

## How it is counted

Every byte counts, every millisecond of silence, and one for each arrival, so that blocks without
bytes count as well.  The unfinished line counts for one and not by its length: its bytes were
counted while they were in a block, and all that it can still do is to become one line at an end of
file.

The proof goes along the recursion of a call.  `UsesUp` says what a call makes of the amount that is
before it.  There is one lemma for each way in which a call ends, and where a call goes on, with the
next block or after a silence, `UsesUp.of_before` carries over what the rest of it uses up.  The
module stands beside the definitions and not among the proofs because the recursion of
`Recorder.Run` is justified by it.
-/

set_option autoImplicit false

namespace TelemetryLog
namespace Device

namespace Framer

/-- A complete line leaves nothing held. -/
theorem scan_framer_of_line {f : Framer} {n : Nat} {bs line : List UInt8}
    (h : (f.scan n bs).line = some line) : (f.scan n bs).framer = {} := by
  fun_induction scan f n bs with
  | case1 => exact absurd h (by simp)
  | case2 => rfl
  | case3 _ _ _ _ ih => exact ih h
  | case4 _ _ _ _ ih => exact ih h
  | case5 _ _ _ _ _ ih => exact ih h

theorem held_size_push_le (f : Framer) (b : UInt8) : (f.push b).held.size ≤ f.held.size + 1 := by
  unfold push
  split <;> simp

theorem held_size_settle_le (f : Framer) : f.settle.1.held.size ≤ f.held.size := by
  unfold settle
  split <;> simp

/-- Only a block with bytes in it can make something held out of nothing. -/
theorem held_scan_le (f : Framer) (n : Nat) (bs : List UInt8) :
    min (f.scan n bs).framer.held.size 1 ≤ bs.length + min f.held.size 1 := by
  fun_induction scan f n bs with
  | case1 f _ =>
    have := held_size_settle_le f
    simp only [List.length_nil]
    omega
  | case2 => simp
  | case3 f n bs _ ih => simp at ih ⊢; omega
  | case4 f n bs _ ih => simp at ih ⊢; omega
  | case5 f n b bs _ ih =>
    have := held_size_push_le f b
    simp only [List.length_cons]
    omega

end Framer

namespace Channel

/-- How much one arrival can keep a reader busy. -/
def arrivalWork : Arrival → Nat
  | .block bs => bs.length + 1
  | .silence ms => ms + 1
  | .failure _ => 1
  | .ended => 1

/-- How much a list of arrivals can keep a reader busy. -/
def arrivalsWork : List Arrival → Nat
  | [] => 0
  | a :: as => arrivalWork a + arrivalsWork as

/-- How much a channel can keep a reader busy: every byte, every millisecond of silence and every
other arrival counts, and so does an unfinished line. -/
def work (c : Channel) : Nat :=
  c.block.length + arrivalsWork c.arrivals + min c.framer.held.size 1

/-- An end of file gives a line only if something is held. -/
theorem held_pos_of_endOfFile_line {c : Channel} {text : String} (h : c.endOfFile = .line text) :
    0 < c.framer.held.size := by
  unfold endOfFile at h
  split at h
  · exact absurd h (by simp)
  · rename_i hne
    simp only [Bool.or_eq_true, not_or, Array.isEmpty_iff_size_eq_zero] at hne
    omega

theorem endOfFile_ne_idle (c : Channel) : c.endOfFile ≠ .idle := by
  unfold endOfFile
  split <;> simp

theorem left_of_wait_through {p q : Patience} {ms : Nat} (h : p.wait ms = .through q) :
    p.left ≤ q.left + ms := by
  unfold Patience.wait at h
  split at h
  · simp only [Waited.through.injEq] at h
    subst h
    omega
  · split at h
    · split at h
      · exact absurd h (by simp)
      · split at h
        · simp only [Waited.through.injEq, Patience.less] at h
          subst h
          simp only
          omega
        · exact absurd h (by simp)
    · split at h
      · simp only [Waited.through.injEq, Patience.less] at h
        subst h
        simp only
        omega
      · exact absurd h (by simp)

theorem left_lt_of_wait_timedOut {p : Patience} {ms : Nat} (h : p.wait ms = .timedOut) :
    p.left < ms := by
  unfold Patience.wait at h
  split at h
  · exact absurd h (by simp)
  · split at h
    · split at h
      · exact absurd h (by simp)
      · split at h
        · exact absurd h (by simp)
        · omega
    · split at h
      · exact absurd h (by simp)
      · omega

/-! ## One call

What is left of a block after a line is shorter than the block, and a block without a line leaves at
most something held; these two facts about `Framer.scan` are all that is used of it. -/

/-- What a call makes of the `w` that is before it, when it may wait for `left`. -/
structure UsesUp (w left : Nat) (r : Read) : Prop where
  /-- It uses something up for a line. -/
  line : ∀ text, r.reply = .line text → r.channel.work < w
  /-- It uses up the time it may wait when it is idle. -/
  idle : r.reply = .idle → r.channel.work + left ≤ w

/-- A call that reads on may have used something up before, but no less than it waited. -/
theorem UsesUp.of_before {w left w' left' : Nat} {r : Read} (h : UsesUp w left r) (hw : w ≤ w')
    (hleft : w + left' ≤ w' + left) : UsesUp w' left' r where
  line text hr := Nat.lt_of_lt_of_le (h.line text hr) hw
  idle hr := by
    have := h.idle hr
    omega

section UsesUp

variable {c : Channel}

/-- The next block counts with its bytes, and of the one before only what is held of it. -/
theorem work_next_block_le (bs : List UInt8) (as : List Arrival) :
    ({ c.after (c.framer.scan 0 c.block) with block := bs, arrivals := as } : Channel).work ≤
      bs.length + ({ c with arrivals := as } : Channel).work := by
  have hheld := Framer.held_scan_le c.framer 0 c.block
  simp only [work, after]
  omega

/-- A line in the block uses its bytes up. -/
theorem usesUp_line {line : List UInt8} (hline : (c.framer.scan 0 c.block).line = some line)
    (as : List Arrival) (left elapsed : Nat) (events : List Event) :
    UsesUp ({ c with arrivals := as } : Channel).work left
      ⟨.line (Utf8.lossyText line),
        { c.after (c.framer.scan 0 c.block) with arrivals := as }, elapsed, events⟩ := by
  have hrest := Framer.scan_rest_length_lt hline
  have hheld := Framer.scan_framer_of_line hline
  refine ⟨fun _ _ => ?_, fun h => absurd h (by simp)⟩
  simp only [work, after, hheld, Array.size_empty]
  omega

variable (hline : (c.framer.scan 0 c.block).line = none)

include hline

/-- After a block without a line only what is held of it counts. -/
theorem work_after_le (as : List Arrival) :
    ({ c.after (c.framer.scan 0 c.block) with arrivals := as } : Channel).work ≤
      ({ c with arrivals := as } : Channel).work := by
  have hrest := Framer.scan_rest_eq_nil hline
  have hheld := Framer.held_scan_le c.framer 0 c.block
  simp only [work, after, hrest, List.length_nil]
  omega

/-- The unfinished line at an end of file is used up. -/
theorem usesUp_endOfFile (as : List Arrival) (left elapsed : Nat) (events : List Event) :
    UsesUp ({ c with arrivals := as } : Channel).work left
      ⟨(c.after (c.framer.scan 0 c.block)).endOfFile,
        { c.after (c.framer.scan 0 c.block) with arrivals := as, framer := {} }, elapsed,
        events⟩ := by
  have hrest := Framer.scan_rest_eq_nil hline
  have hheld := Framer.held_scan_le c.framer 0 c.block
  refine ⟨fun text h => ?_, fun h => absurd h (endOfFile_ne_idle _)⟩
  have hpos := held_pos_of_endOfFile_line h
  simp only [work, after, hrest, List.length_nil, Array.size_empty] at hpos ⊢
  omega

/-- A call that waits for all the time it has used up that much of the silence. -/
theorem usesUp_silence {left ms : Nat} (hleft : left < ms) (as : List Arrival) (elapsed : Nat)
    (events : List Event) :
    UsesUp ({ c with arrivals := .silence ms :: as } : Channel).work left
      ⟨.idle, { c.after (c.framer.scan 0 c.block) with arrivals := .silence (ms - left) :: as },
        elapsed, events⟩ := by
  have hrest := Framer.scan_rest_eq_nil hline
  have hheld := Framer.held_scan_le c.framer 0 c.block
  refine ⟨fun _ h => absurd h (by simp), fun _ => ?_⟩
  simp only [work, after, hrest, arrivalsWork, arrivalWork, List.length_nil]
  omega

end UsesUp

/-- A reply that is neither a line nor idle has nothing to use up. -/
theorem usesUp_of_ne {w left : Nat} {r : Read} (hline : ∀ text, r.reply ≠ .line text)
    (hidle : r.reply ≠ .idle) : UsesUp w left r :=
  ⟨fun text h => absurd h (hline text), fun h => absurd h hidle⟩

/-- **A call uses something up** for a line, and the time it may wait when it is idle. -/
theorem readFrom_usesUp (c : Channel) (p : Patience) (events : List Event) (as : List Arrival) :
    UsesUp ({ c with arrivals := as } : Channel).work p.left (readFrom c p events as) := by
  fun_induction readFrom c p events as with
  | case1 as c p events sc ev c' bytes hline => exact usesUp_line hline as _ _ _
  | case2 c p events sc ev c' hline => exact usesUp_endOfFile hline [] _ _ _
  | case3 c p events sc ev c' hline more =>
    refine (usesUp_endOfFile hline more p.left _ _).of_before ?_ ?_ <;>
      simp only [work, arrivalsWork] <;> omega
  | case4 => exact usesUp_of_ne (by simp) (by simp)
  | case5 c p events sc ev c' hline bs more ih =>
    have hle : Channel.work { c' with block := bs, arrivals := more } ≤ _ :=
      work_next_block_le bs more
    refine ih.of_before ?_ ?_ <;> simp only [work, arrivalsWork, arrivalWork] at hle ⊢ <;> omega
  | case6 c p events sc ev c' hline ms more q hw ih =>
    have hle : Channel.work { c' with arrivals := more } ≤ _ := work_after_le hline more
    have hleft := left_of_wait_through hw
    refine ih.of_before ?_ ?_ <;> simp only [work, arrivalsWork, arrivalWork] at hle ⊢ <;> omega
  | case7 c p events sc ev c' hline ms more hw =>
    exact usesUp_silence hline (left_lt_of_wait_timedOut hw) more _ _
  | case8 => exact usesUp_of_ne (by simp) (by simp)

/-- A call that returns a line uses something up. -/
theorem work_lt_of_line {c : Channel} {stop : Option Nat} {text : String}
    (h : (c.readUntil stop).reply = .line text) : (c.readUntil stop).channel.work < c.work :=
  (readFrom_usesUp c ⟨c.timeout, stop, 0⟩ [] c.arrivals).line text h

/-- An idle call uses up the time it waited. -/
theorem work_add_timeout_le_of_idle {c : Channel} {stop : Option Nat}
    (h : (c.readUntil stop).reply = .idle) :
    (c.readUntil stop).channel.work + c.timeout ≤ c.work :=
  (readFrom_usesUp c ⟨c.timeout, stop, 0⟩ [] c.arrivals).idle h

end Channel
end Device
end TelemetryLog
