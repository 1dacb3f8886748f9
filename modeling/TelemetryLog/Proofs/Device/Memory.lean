import Mathlib.Logic.Relation
import TelemetryLog.Proofs.Device.Chunking
import TelemetryLog.Proofs.Device.Taking

/-!
# What a channel holds

Between two calls, and whenever a call waits for its stream, a channel holds just the bytes of the
current line, or nothing if there are already too many of them: that is `Framer.HoldsLine`.  While a
call works through what one read gave, it may hold more than a line, but by no more than that read.

`Channel.read` is one recursion over the arrivals, with a scan of a block in each of its steps.  To
speak of what is held in between, a call is taken apart into its moments: `Moment.step` takes one
byte, or asks for the next arrival, and `Moment.result_eq_step` says that a call is nothing but
these steps one after the other.

## What is here

* `currentLine` — the bytes since the last line feed or end of file among the marks taken so far.
* `Framer.Keeps`, `Framer.HoldsLine` — the framer holds the current line, at any moment and between
  reads; the difference is that between reads what is held is not too long.
* `Moment`, `Moment.step`, `Moment.Reaches` — a call in small steps.
* `Moment.Within` — the invariant of a moment, kept by every step.
* `holdsThroughout_later` — the main statement: after any calls, and at every moment of the next one
  at which it asks for more, the channel holds the current line of what has been taken.

## Why moments

A call in one piece has only a beginning and an end, and a bound that holds at both may be broken in
between.  What is written down in `Moment.step` is the loop of the reader: look at what the last
read gave, and ask the stream again when that is used up.  It would be of no use if it were another
program, so `result_eq_step` compares it with the recursion: from every moment of a call the rest of
it comes to the same as the whole.

The bound has two parts that must not be confused.  What is held after a read that was settled is at
most `maxLine`; what is held while a block is looked at can be more by the bytes of that block.  The
second is the real limit of memory, and `room` states it for every moment.  Both count the bytes of
the line alone; that blocks are at most `blockSize` long is a property of the stream (`Fit`), and
scripts have it.

What an array or a buffer takes besides its bytes is not counted.
-/

set_option autoImplicit false

namespace TelemetryLog
namespace Device

open Channel (Reply Read ofScript)

/-! ## The current line -/

/-- The bytes since the last line feed or end of file. -/
def currentLine (ms : List Mark) : List UInt8 :=
  Mark.bytes (ms.rtakeWhile fun m => m ≠ .byte Csv.lf ∧ m ≠ .ended)

theorem currentLine_concat (ms : List Mark) (m : Mark) :
    currentLine (ms ++ [m]) =
      if m = .byte Csv.lf ∨ m = .ended then [] else currentLine ms ++ Mark.bytes [m] := by
  rw [currentLine, List.rtakeWhile_concat]
  by_cases hm : m = .byte Csv.lf ∨ m = .ended
  · rw [if_pos hm, if_neg (by simpa using fun h => hm.resolve_left h)]
    rfl
  · rw [if_neg hm, if_pos (by simpa using not_or.1 hm)]
    exact List.filterMap_append

theorem lf_not_mem_currentLine (ms : List Mark) : Csv.lf ∉ currentLine ms := by
  intro h
  obtain ⟨m, hm, hbyte⟩ := List.mem_filterMap.1 h
  have hne := List.mem_rtakeWhile_imp hm
  cases m <;> simp_all

/-- The bytes of the segment are those of the current line. -/
theorem Segment.bytes_afterAll (ms : List Mark) :
    (Segment.afterAll {} ms).bytes = currentLine ms := by
  induction ms using List.reverseRecOn with
  | nil => rfl
  | append_singleton ms m ih =>
    rw [currentLine_concat, ← ih, afterAll_append]
    cases m with
    | byte b =>
      by_cases hb : b = Csv.lf
      · subst hb
        rfl
      · rw [if_neg (by simpa using hb)]
        exact congrArg Segment.bytes (after_of_ne_lf _ hb)
    | readEnd => exact (List.append_nil _).symm
    | failure detail => exact (List.append_nil _).symm
    | ended => rfl

namespace Framer

/-- The framer holds all the bytes of a line, or it is dropping a line that is too long. -/
inductive Keeps : Framer → List UInt8 → Prop
  | whole (held : Array UInt8) : Keeps ⟨held, false⟩ held.toList
  | dropping {line : List UInt8} (hlong : maxLine < line.length) : Keeps ⟨#[], true⟩ line

/-- The framer holds the current line as it should between two reads. -/
structure HoldsLine (f : Framer) (line : List UInt8) : Prop where
  /-- No line feed is held. -/
  lf_not_mem : Csv.lf ∉ f.held.toList
  /-- What is held could still become a line. -/
  size_le : f.held.size ≤ maxLine
  /-- Nothing is held of a line that is dropped. -/
  held_of_dropping : f.dropping = true → f.held = #[]
  /-- Of any other line, everything is held. -/
  held_of_not_dropping : f.dropping = false → f.held.toList = line
  /-- Just the lines that are too long are dropped. -/
  dropping_iff : f.dropping = true ↔ maxLine < line.length

namespace Keeps

variable {f : Framer} {line : List UInt8}

theorem push (h : Keeps f line) (b : UInt8) : Keeps (f.push b) (line ++ [b]) := by
  cases h with
  | whole held =>
    rw [← Array.toList_push]
    exact whole (held.push b)
  | dropping hlong => exact dropping (by rw [List.length_append]; omega)

/-- A line that is held and too long can be dropped. -/
theorem drop (h : Keeps f line) (hlong : maxLine < f.held.size) : Keeps ⟨#[], true⟩ line := by
  cases h with
  | whole held => exact dropping (by rwa [Array.length_toList])
  | dropping hlong => exact dropping hlong

theorem holdsLine (h : Keeps f line) (hlf : Csv.lf ∉ line) (hsize : f.held.size ≤ maxLine) :
    HoldsLine f line := by
  cases h with
  | whole held =>
    refine ⟨hlf, hsize, fun h => absurd h Bool.false_ne_true, fun _ => rfl, ?_⟩
    rw [Array.length_toList]
    exact ⟨fun h => absurd h Bool.false_ne_true, fun h => absurd hsize (Nat.not_le.2 h)⟩
  | dropping hlong =>
    exact ⟨List.not_mem_nil, Nat.zero_le _, fun _ => rfl, fun h => absurd h.symm Bool.false_ne_true,
      fun _ => hlong, fun _ => rfl⟩

end Keeps

end Framer

theorem Tracks.keeps {f : Framer} {s : Segment} (h : Tracks f s) : f.Keeps s.bytes := by
  cases h with
  | whole hheld hcut =>
    rw [← hheld]
    exact .whole _
  | dropping hlong => exact .dropping (by rcases hlong with h | ⟨-, h⟩ <;> omega)

/-- After a call, or before its first read, no more is held than the longest line. -/
theorem Follows.size_le {f : Framer} {s : Segment} (h : Follows f s) : f.held.size ≤ maxLine := by
  have hsettle := h.tracks.settle_eq h.settled
  rw [Framer.settle] at hsettle
  split at hsettle
  · cases hsettle
  · rename_i hlong
    exact Nat.le_of_not_lt hlong

/-! ## The reads of a stream are short

A block is never longer than what one read asks for.  Arrivals could have longer ones, so this is a
condition on the stream; it holds of every script and is kept by every call. -/

namespace Arrival

/-- No read gives more than the reader asks for. -/
def Fit (as : List Arrival) : Prop := ∀ bs, .block bs ∈ as → bs.length ≤ blockSize

variable {bs : List UInt8} {a : Arrival} {as : List Arrival}

theorem Fit.tail (h : Fit (a :: as)) : Fit as := fun bs hbs => h bs (List.mem_cons_of_mem a hbs)

theorem Fit.cons (h : Fit as) (ha : a.block? = none) : Fit (a :: as) := by
  intro bs hbs
  rcases List.mem_cons.1 hbs with rfl | hbs
  · cases ha
  · exact h bs hbs

theorem fit_aheadOf : Fit (aheadOf bs as) ↔ bs.length ≤ blockSize ∧ Fit as := by
  rw [aheadOf]
  split
  · rename_i hnil
    subst hnil
    exact ⟨fun h => ⟨Nat.zero_le _, h⟩, And.right⟩
  · constructor
    · exact fun h => ⟨h bs List.mem_cons_self, h.tail⟩
    · rintro ⟨hlen, h⟩ bs' hbs'
      rcases List.mem_cons.1 hbs' with heq | hbs'
      · cases heq
        exact hlen
      · exact h bs' hbs'

theorem fit_blocks (bs : List UInt8) : Fit (blocks bs) := by
  fun_induction blocks bs with
  | case1 => exact fun _ h => absurd h List.not_mem_nil
  | case2 bs _ ih =>
    intro bs' hbs'
    rcases List.mem_cons.1 hbs' with heq | hbs'
    · cases heq
      exact List.length_take_le _ _
    · exact ih bs' hbs'

end Arrival

theorem Signal.fit_arrivals (script : List Signal) : Arrival.Fit (script.flatMap arrivals) := by
  intro bs hbs
  obtain ⟨s, -, hs⟩ := List.mem_flatMap.1 hbs
  cases s with
  | chunk first more => exact Arrival.fit_blocks _ bs hs
  | silence ms => simp [arrivals] at hs
  | failure detail => simp [arrivals] at hs
  | ended => simp [arrivals] at hs

namespace Channel

open Arrival (Fit aheadOf fit_aheadOf)

theorem fit_ahead {c : Channel} (hblock : c.block = []) (h : Fit c.arrivals) : Fit c.ahead := by
  rw [ahead, hblock]
  exact h

/-- What a call leaves of its stream fits as well. -/
theorem fit_readFrom (c : Channel) (p : Patience) (events : List Event) (as : List Arrival) :
    Fit (aheadOf c.block as) → Fit (readFrom c p events as).channel.ahead := by
  fun_induction readFrom c p events as with
  | case1 as c p events sc ev c' bytes hline =>
    intro h
    obtain ⟨hlen, has⟩ := fit_aheadOf.1 h
    exact fit_aheadOf.2 ⟨Nat.le_trans (Framer.scan_rest_length_le ..) hlen, has⟩
  | case2 c p events sc ev c' hline =>
    exact fun h => fit_ahead (Framer.scan_rest_eq_nil hline) (fit_aheadOf.1 h).2
  | case3 c p events sc ev c' hline more =>
    exact fun h => fit_ahead (Framer.scan_rest_eq_nil hline) (fit_aheadOf.1 h).2.tail
  | case4 c p events sc ev c' hline detail more =>
    exact fun h => fit_ahead (Framer.scan_rest_eq_nil hline) (fit_aheadOf.1 h).2.tail
  | case5 c p events sc ev c' hline bs more ih =>
    intro h
    have has := (fit_aheadOf.1 h).2
    exact ih (fit_aheadOf.2 ⟨has bs List.mem_cons_self, has.tail⟩)
  | case6 c p events sc ev c' hline ms more q hw ih =>
    intro h
    refine ih (fit_aheadOf.2 ⟨?_, (fit_aheadOf.1 h).2.tail⟩)
    rw [show c'.block = [] from Framer.scan_rest_eq_nil hline]
    exact Nat.zero_le _
  | case7 c p events sc ev c' hline ms more hw =>
    exact fun h => fit_ahead (Framer.scan_rest_eq_nil hline) ((fit_aheadOf.1 h).2.tail.cons rfl)
  | case8 c p events sc ev c' hline ms more moment hw =>
    exact fun h => fit_ahead (Framer.scan_rest_eq_nil hline) ((fit_aheadOf.1 h).2.tail.cons rfl)

theorem fit_later (c : Channel) (n : Nat) (h : Fit c.ahead) : Fit (c.later n).ahead := by
  induction n generalizing c with
  | zero => exact h
  | succ n ih => exact ih c.read.channel (fit_readFrom c _ _ _ h)

end Channel

/-! ## The moments of a call

A moment has the channel, what is left of the patience, and what has been told so far, which is all
that the rest of a call depends on. -/

/-- A moment in a call. -/
structure Moment where
  /-- The channel at that moment. -/
  channel : Channel
  /-- How long the call may still wait. -/
  patience : Patience
  /-- What the call has told so far. -/
  events : List Event

namespace Moment

/-- The first moment of a call. -/
def start (c : Channel) : Moment := ⟨c, ⟨c.timeout, none, 0⟩, []⟩

/-- What comes of the call. -/
def result (a : Moment) : Read := a.channel.readFrom a.patience a.events a.channel.arrivals

/-- What comes of the call when it goes on like this, or is over. -/
def resultOf : Moment ⊕ Read → Read
  | .inl b => b.result
  | .inr r => r

/-- The call looks at the next byte of a block. -/
def look (a : Moment) (b : UInt8) (bs : List UInt8) : Moment ⊕ Read :=
  if b = Csv.lf then
    match a.channel.framer.finish with
    | .line bytes =>
      .inr ⟨.line (Utf8.lossyText bytes), { a.channel with framer := {}, block := bs },
        a.patience.spent, a.events⟩
    | .tooLong =>
      .inl { a with
        channel := { a.channel with framer := {}, block := bs }
        events := a.events ++ [Channel.tooLongEvent a.channel.name] }
    | .rest => .inl { a with channel := { a.channel with framer := {}, block := bs } }
  else
    .inl { a with channel := { a.channel with framer := a.channel.framer.push b, block := bs } }

/-- The call asks its stream for the next arrival. -/
def ask (a : Moment) : Moment ⊕ Read :=
  match a.channel.arrivals with
  | [] => .inr ⟨a.channel.endOfFile, { a.channel with framer := {} }, a.patience.spent, a.events⟩
  | .ended :: more =>
    .inr ⟨a.channel.endOfFile, { a.channel with arrivals := more, framer := {} },
      a.patience.spent, a.events⟩
  | .failure detail :: more =>
    .inr ⟨.failed (.serial (.cannotRead a.channel.name detail)),
      { a.channel with arrivals := more }, a.patience.spent, a.events⟩
  | .block bs :: more =>
    .inl { a with channel := { a.channel with block := bs, arrivals := more } }
  | .silence ms :: more =>
    match a.patience.wait ms with
    | .through q => .inl ⟨{ a.channel with arrivals := more }, q, a.events⟩
    | .timedOut =>
      .inr ⟨.idle, { a.channel with arrivals := .silence (ms - a.patience.left) :: more },
        a.patience.spent + a.patience.left, a.events⟩
    | .stopped moment =>
      .inr ⟨.stopped, { a.channel with arrivals := .silence (ms - moment) :: more },
        a.patience.spent + moment, a.events⟩

/-- What the call does next: it goes on, or it is over. -/
def step (a : Moment) : Moment ⊕ Read :=
  match a.channel.block with
  | b :: bs => a.look b bs
  | [] =>
    if maxLine < a.channel.held then
      .inl { a with
        channel := { a.channel with framer := ⟨#[], true⟩ }
        events := a.events ++ [Channel.tooLongEvent a.channel.name] }
    else a.ask

/-- The moments that a call comes to from some moment on. -/
def Reaches : Moment → Moment → Prop := Relation.ReflTransGen fun a b => a.step = .inl b

/-- Does the call ask for the next arrival, so that it may have to wait? -/
def Asks (a : Moment) : Prop := a.channel.block = [] ∧ a.channel.held ≤ maxLine

end Moment

namespace Framer

variable {f : Framer}

theorem scan_nil_of_le (h : f.held.size ≤ maxLine) : f.scan 0 [] = ⟨f, none, [], 0⟩ := by
  rw [scan, settle, if_neg (Nat.not_lt.2 h)]
  rfl

/-- What is found to be too long at the end of a read is dropped and told from there on. -/
theorem scan_nil_of_lt (h : maxLine < f.held.size) : f.scan 0 [] = scan ⟨#[], true⟩ 1 [] := by
  rw [scan, settle, if_pos h]
  rfl

end Framer

/-- Lines that were too long before are only counted. -/
theorem Framer.scan_add (f : Framer) (m n : Nat) (bs : List UInt8) :
    f.scan (m + n) bs = { f.scan n bs with tooLong := m + (f.scan n bs).tooLong } := by
  fun_induction scan f n bs with
  | case1 f n => rw [scan, Nat.add_assoc]
  | case2 f n bs bytes h => rw [scan, if_pos rfl, h]
  | case3 f n bs h ih => rw [scan, if_pos rfl, h, ← ih]; rfl
  | case4 f n bs h ih => rw [scan, if_pos rfl, h, ← ih]
  | case5 f n b bs hb ih => rw [scan, if_neg hb, ← ih]

/-- A call may as well begin with what a part of the scan leaves. -/
theorem Channel.readFrom_eq_of_scan {c : Channel} {f : Framer} {block : List UInt8} {told : Nat}
    (h : c.framer.scan 0 c.block = f.scan told block) (p : Patience) (events : List Event)
    (as : List Arrival) :
    readFrom c p events as =
      readFrom { c with framer := f, block := block } p
        (events ++ List.replicate told (tooLongEvent c.name)) as := by
  have hscan := f.scan_add told 0 block
  rw [Nat.add_zero, ← h] at hscan
  have htell : c.tellScan events (c.framer.scan 0 c.block) =
      c.tellScan (events ++ List.replicate told (tooLongEvent c.name)) (f.scan 0 block) := by
    rw [hscan, tellScan, tellScan, List.replicate_add, List.append_assoc]
  have hafter : c.after (c.framer.scan 0 c.block) = c.after (f.scan 0 block) := by
    rw [hscan]
    rfl
  have hline : (c.framer.scan 0 c.block).line = (f.scan 0 block).line := by rw [hscan]
  unfold readFrom
  dsimp only
  rw [htell, hafter, hline]
  rfl

/-- While a call is made, only the arrivals that it is given matter. -/
theorem Channel.readFrom_with_arrivals (c : Channel) (other : List Arrival) (p : Patience)
    (events : List Event) (as : List Arrival) :
    readFrom { c with arrivals := other } p events as = readFrom c p events as := by
  fun_induction readFrom c p events as with
  | case1 as c p events sc ev c' bytes hline =>
    exact readFrom_of_line (c := { c with arrivals := other }) hline
  | case2 c p events sc ev c' hline =>
    exact readFrom_nil (c := { c with arrivals := other }) hline
  | case3 c p events sc ev c' hline more =>
    exact readFrom_ended (c := { c with arrivals := other }) hline
  | case4 c p events sc ev c' hline detail more =>
    exact readFrom_failure (c := { c with arrivals := other }) hline
  | case5 c p events sc ev c' hline bs more ih =>
    exact (readFrom_block (c := { c with arrivals := other }) hline).trans ih
  | case6 c p events sc ev c' hline ms more q hw ih =>
    rw [readFrom_silence (c := { c with arrivals := other }) hline, hw]
    exact ih
  | case7 c p events sc ev c' hline ms more hw =>
    rw [readFrom_silence (c := { c with arrivals := other }) hline, hw]
    rfl
  | case8 c p events sc ev c' hline ms more moment hw =>
    rw [readFrom_silence (c := { c with arrivals := other }) hline, hw]
    rfl

namespace Moment

variable {a : Moment}

/-- What has been scanned of a block need not be scanned again. -/
theorem result_eq_of_scan {f : Framer} {block : List UInt8}
    (h : a.channel.framer.scan 0 a.channel.block = f.scan 0 block) :
    a.result = result { a with channel := { a.channel with framer := f, block := block } } := by
  rw [result, Channel.readFrom_eq_of_scan h, List.replicate_zero, List.append_nil]
  rfl

theorem result_eq_look {b : UInt8} {bs : List UInt8} (hblock : a.channel.block = b :: bs) :
    a.result = resultOf (a.look b bs) := by
  rw [look]
  split
  · rename_i hb
    subst hb
    split
    · rename_i bytes hfin
      have hscan : a.channel.framer.scan 0 a.channel.block = ⟨{}, some bytes, bs, 0⟩ := by
        rw [hblock, Framer.scan, if_pos rfl, hfin]
      rw [result, Channel.readFrom_of_line (congrArg Scan.line hscan), hscan]
      exact congrArg _ (List.append_nil _)
    · rename_i hfin
      have hscan : a.channel.framer.scan 0 a.channel.block = Framer.scan {} 1 bs := by
        rw [hblock, Framer.scan, if_pos rfl, hfin]
      exact Channel.readFrom_eq_of_scan hscan ..
    · rename_i hfin
      refine result_eq_of_scan ?_
      rw [hblock, Framer.scan, if_pos rfl, hfin]
  · rename_i hb
    refine result_eq_of_scan ?_
    rw [hblock, Framer.scan, if_neg hb]

theorem result_eq_ask (hblock : a.channel.block = []) (hheld : a.channel.held ≤ maxLine) :
    a.result = resultOf a.ask := by
  -- there is nothing to scan, so a call would go straight to the next arrival
  have hscan : a.channel.framer.scan 0 a.channel.block = ⟨a.channel.framer, none, [], 0⟩ := by
    rw [hblock, Framer.scan_nil_of_le hheld]
  have hline := congrArg Scan.line hscan
  have hafter : a.channel.after ⟨a.channel.framer, none, [], 0⟩ = a.channel := by
    rw [Channel.after, ← hblock]
  have htell : a.channel.tellScan a.events ⟨a.channel.framer, none, [], 0⟩ = a.events :=
    List.append_nil _
  rw [result, ask]
  split
  · rename_i h
    rw [h, Channel.readFrom_nil hline, hscan, hafter, htell, ← h]
    rfl
  · rename_i h
    rw [h, Channel.readFrom_ended hline, hscan, hafter, htell]
    rfl
  · rename_i h
    rw [h, Channel.readFrom_failure hline, hscan, hafter, htell]
    rfl
  · rename_i h
    rw [h, Channel.readFrom_block hline, hscan, hafter, htell]
    exact (Channel.readFrom_with_arrivals ..).symm
  · rename_i ms more h
    rw [h, Channel.readFrom_silence hline, hscan, hafter, htell]
    cases a.patience.wait ms with
    | through q => exact (Channel.readFrom_with_arrivals ..).symm
    | timedOut => rfl
    | stopped moment => rfl

/-- **A call is its steps, one after the other.** -/
theorem result_eq_step (a : Moment) : a.result = resultOf a.step := by
  rw [step]
  split
  · rename_i b bs hblock
    exact result_eq_look hblock
  · rename_i hblock
    split
    · rename_i hlong
      have hscan : a.channel.framer.scan 0 a.channel.block = Framer.scan ⟨#[], true⟩ 1 [] := by
        rw [hblock, Framer.scan_nil_of_lt hlong]
      rw [result, Channel.readFrom_eq_of_scan hscan, ← hblock]
      rfl
    · rename_i hlong
      exact result_eq_ask hblock (Nat.le_of_not_lt hlong)

theorem Reaches.result_eq {b : Moment} (h : a.Reaches b) : a.result = b.result := by
  induction h with
  | refl => rfl
  | tail _ hstep ih => rw [ih, result_eq_step, hstep, resultOf]

end Moment

/-! ## What is held at a moment

`Within` follows what has been taken from the stream up to a moment.  A byte moves one mark from
what is before the call to what has been taken, a read that gives bytes only fills the block, and a
silence changes neither. -/

/-- The end of a read does not belong to a line. -/
theorem currentLine_append_readEnd (ms : List Mark) (p : Prop) [Decidable p] :
    currentLine (ms ++ if p then [.readEnd] else []) = currentLine ms := by
  split
  · rw [currentLine_concat, if_neg (by simp)]
    exact List.append_nil _
  · rw [List.append_nil]

namespace Arrival

theorem marks_aheadOf (block : List UInt8) (as : List Arrival) :
    (aheadOf block as).flatMap marks = blockMarks block ++ as.flatMap marks := by
  rw [aheadOf, blockMarks]
  split <;> rfl

theorem blockMarks_cons (b : UInt8) (bs : List UInt8) :
    blockMarks (b :: bs) =
      [.byte b] ++ (if bs = [] then [.readEnd] else []) ++ blockMarks bs := by
  obtain ⟨ms, hms, rfl⟩ := blockMarks_append [b] bs (List.cons_ne_nil _ _)
  exact hms

theorem marks_block (bs : List UInt8) :
    (block bs).marks = (if bs = [] then [.readEnd] else []) ++ blockMarks bs := by
  rw [blockMarks]
  split
  · rename_i hnil
    rw [hnil]
    rfl
  · rfl

end Arrival

namespace Moment

/-- What is true at a moment of a call that has taken these marks of its stream. -/
structure Within (a : Moment) (stream taken : List Mark) : Prop where
  /-- The rest of the stream is before the call. -/
  eq_append : stream = taken ++ a.channel.ahead.flatMap Arrival.marks
  /-- The bytes of the current line are held, unless there are too many. -/
  keeps : a.channel.framer.Keeps (currentLine taken)
  /-- The reads to come are short. -/
  fit : Arrival.Fit a.channel.ahead
  /-- There is room for what one read gives. -/
  room : a.channel.held + a.channel.block.length ≤ maxLine + Arrival.blockSize

variable {a b : Moment} {stream taken : List Mark}

/-- A call that waits for its stream holds the current line. -/
theorem Within.holdsLine (h : a.Within stream taken) (hasks : a.Asks) :
    a.channel.framer.HoldsLine (currentLine taken) :=
  h.keeps.holdsLine (lf_not_mem_currentLine taken) hasks.2

/-- A byte goes to the framer, or it is a line feed that the framer can forget everything at. -/
theorem look_eq_inl {x : UInt8} {bs : List UInt8} (hlook : a.look x bs = .inl b) :
    b.channel.block = bs ∧ b.channel.arrivals = a.channel.arrivals ∧
      (x = Csv.lf ∧ b.channel.framer = {} ∨
        x ≠ Csv.lf ∧ b.channel.framer = a.channel.framer.push x) := by
  rw [look] at hlook
  split at hlook
  · rename_i hx
    split at hlook
    · cases hlook
    · cases hlook
      exact ⟨rfl, rfl, .inl ⟨hx, rfl⟩⟩
    · cases hlook
      exact ⟨rfl, rfl, .inl ⟨hx, rfl⟩⟩
  · rename_i hx
    cases hlook
    exact ⟨rfl, rfl, .inr ⟨hx, rfl⟩⟩

/-- An arrival after which the call goes on is a read that gives bytes, or a silence. -/
theorem ask_eq_inl (hask : a.ask = .inl b) :
    b.channel.framer = a.channel.framer ∧
      ((∃ bs, a.channel.arrivals = .block bs :: b.channel.arrivals ∧ b.channel.block = bs) ∨
        ∃ ms, a.channel.arrivals = .silence ms :: b.channel.arrivals ∧
          b.channel.block = a.channel.block) := by
  rw [ask] at hask
  split at hask
  · cases hask
  · cases hask
  · cases hask
  · rename_i bs more has
    cases hask
    exact ⟨rfl, .inl ⟨bs, has, rfl⟩⟩
  · rename_i ms more has
    split at hask
    · cases hask
      exact ⟨rfl, .inr ⟨ms, has, rfl⟩⟩
    · cases hask
    · cases hask

theorem Within.look (h : a.Within stream taken) {x : UInt8} {bs : List UInt8}
    (hblock : a.channel.block = x :: bs) (hlook : a.look x bs = .inl b) :
    ∃ ms, b.Within stream (taken ++ ms) := by
  obtain ⟨hbs, has, hframer⟩ := look_eq_inl hlook
  obtain ⟨hahead, hkeeps, hfit, hroom⟩ := h
  rw [Channel.ahead, hblock] at hahead hfit
  rw [Channel.held, hblock, List.length_cons] at hroom
  rw [Arrival.marks_aheadOf, Arrival.blockMarks_cons, List.append_assoc _ (Arrival.blockMarks bs),
    ← Arrival.marks_aheadOf, ← List.append_assoc, ← hbs, ← has, ← Channel.ahead] at hahead
  refine ⟨_, hahead, ?_, ?_, ?_⟩
  · rw [← List.append_assoc, currentLine_append_readEnd, currentLine_concat]
    rcases hframer with ⟨rfl, hf⟩ | ⟨hx, hf⟩
    · rw [hf, if_pos (.inl rfl)]
      exact .whole #[]
    · rw [hf, if_neg (by simpa using hx)]
      exact hkeeps.push x
  · obtain ⟨hlen, hmore⟩ := Arrival.fit_aheadOf.1 hfit
    rw [Channel.ahead, hbs, has]
    exact Arrival.fit_aheadOf.2 ⟨Nat.le_of_succ_le hlen, hmore⟩
  · have hsize : b.channel.framer.held.size ≤ a.channel.framer.held.size + 1 := by
      rcases hframer with ⟨-, hf⟩ | ⟨-, hf⟩
      · rw [hf]
        exact Nat.zero_le _
      · rw [hf]
        exact a.channel.framer.held_size_push_le x
    rw [Channel.held, hbs]
    omega

theorem Within.ask (h : a.Within stream taken) (hasks : a.Asks) (hask : a.ask = .inl b) :
    ∃ ms, b.Within stream (taken ++ ms) := by
  obtain ⟨hframer, hcases⟩ := ask_eq_inl hask
  obtain ⟨hahead, hkeeps, hfit, hroom⟩ := h
  rw [Channel.ahead, hasks.1] at hahead hfit
  rcases hcases with ⟨bs, has, hbs⟩ | ⟨ms, has, hbs⟩
  · -- what the read gives is now the block, and there was room for it
    rw [has, Arrival.aheadOf, if_pos rfl] at hahead hfit
    rw [List.flatMap_cons, Arrival.marks_block, List.append_assoc, ← Arrival.marks_aheadOf, ← hbs,
      ← Channel.ahead, ← List.append_assoc] at hahead
    have hlen := hfit bs List.mem_cons_self
    refine ⟨_, hahead, ?_, ?_, ?_⟩
    · rw [currentLine_append_readEnd, hframer]
      exact hkeeps
    · rw [Channel.ahead, hbs]
      exact Arrival.fit_aheadOf.2 ⟨hlen, hfit.tail⟩
    · rw [Channel.held, hframer, hbs]
      exact Nat.add_le_add hasks.2 hlen
  · -- a silence leaves no mark, so what has been taken is what it was
    rw [has, Arrival.aheadOf, if_pos rfl] at hahead hfit
    rw [hasks.1] at hbs
    have hrest : b.channel.ahead = b.channel.arrivals := by
      rw [Channel.ahead, hbs, Arrival.aheadOf, if_pos rfl]
    refine ⟨[], ?_, ?_, ?_, ?_⟩
    · rw [hrest, List.append_nil]
      exact hahead
    · rw [List.append_nil, hframer]
      exact hkeeps
    · rw [hrest]
      exact hfit.tail
    · rw [Channel.held, hframer, hbs, ← hasks.1]
      exact hroom

/-- **A step of a call keeps what is true of it.** -/
theorem Within.step (h : a.Within stream taken) (hstep : a.step = .inl b) :
    ∃ ms, b.Within stream (taken ++ ms) := by
  rw [Moment.step] at hstep
  split at hstep
  · rename_i x bs hblock
    exact h.look hblock hstep
  · rename_i hblock
    split at hstep
    · rename_i hlong
      cases hstep
      refine ⟨[], ?_, ?_, h.fit, ?_⟩
      · rw [List.append_nil]
        exact h.eq_append
      · rw [List.append_nil]
        exact h.keeps.drop hlong
      · exact Nat.le_trans (Nat.add_le_add_right (Nat.zero_le _) _) h.room
    · rename_i hlong
      exact h.ask ⟨hblock, Nat.le_of_not_lt hlong⟩ hstep

theorem Within.of_reaches (h : a.Within stream taken) (hreach : a.Reaches b) :
    ∃ ms, b.Within stream (taken ++ ms) := by
  induction hreach with
  | refl => exact ⟨[], by rwa [List.append_nil]⟩
  | tail _ hstep ih =>
    obtain ⟨ms, hms⟩ := ih
    obtain ⟨more, hmore⟩ := hms.step hstep
    exact ⟨ms ++ more, by rwa [← List.append_assoc]⟩

theorem within_start {c : Channel} {s : Segment} (h : Follows c.framer s) {ms : List Mark}
    (hs : s.bytes = currentLine ms) (hfit : Arrival.Fit c.ahead) :
    (start c).Within (ms ++ c.ahead.flatMap Arrival.marks) ms := by
  refine ⟨rfl, ?_, hfit, Nat.add_le_add h.size_le (Arrival.fit_aheadOf.1 hfit).1⟩
  rw [← hs]
  exact h.tracks.keeps

end Moment

/-- A channel that has taken these marks of its stream holds the current line, and goes on doing so
while the next call is made. -/
structure Channel.HoldsThroughout (c : Channel) (taken : List Mark) : Prop where
  /-- The current line is held before the call. -/
  before : c.framer.HoldsLine (currentLine taken)
  /-- The call comes to the same from each of its moments. -/
  result_eq : ∀ a, (Moment.start c).Reaches a → a.result = c.read
  /-- What is held and what is left to look at are never more than a line and a read. -/
  room : ∀ a, (Moment.start c).Reaches a →
    a.channel.held + a.channel.block.length ≤ maxLine + Arrival.blockSize
  /-- The current line is held whenever the call asks for more. -/
  during : ∀ a, (Moment.start c).Reaches a →
    ∃ more, c.ahead.flatMap Arrival.marks = more ++ a.channel.ahead.flatMap Arrival.marks ∧
      (a.Asks → a.channel.framer.HoldsLine (currentLine (taken ++ more)))

theorem Follows.holdsThroughout {c : Channel} {s : Segment} (h : Follows c.framer s)
    {taken : List Mark} (hs : s.bytes = currentLine taken) (hfit : Arrival.Fit c.ahead) :
    c.HoldsThroughout taken := by
  have hstart := Moment.within_start h hs hfit
  refine ⟨hstart.keeps.holdsLine (lf_not_mem_currentLine taken) h.size_le,
    fun a hreach => hreach.result_eq.symm, fun a hreach => ?_, fun a hreach => ?_⟩
  · obtain ⟨more, hmore⟩ := hstart.of_reaches hreach
    exact hmore.room
  · obtain ⟨more, hmore⟩ := hstart.of_reaches hreach
    have heq := hmore.eq_append
    rw [List.append_assoc, List.append_cancel_left_eq] at heq
    exact ⟨more, heq, hmore.holdsLine⟩

/-- **What is held is always the current line.**  After any calls, the marks of the script are those
that have been taken, which complete the replies that were heard, and those that the channel has
still before it; and of what was taken it holds the current line, unless that is too long. -/
theorem holdsThroughout_later (name : String) (timeout : Nat) (script : List Signal) (n : Nat) :
    ∃ taken k,
      Signal.marks (script ++ List.replicate n .ended) =
          taken ++ (((ofScript name timeout script).later n).ahead ++
            List.replicate k Arrival.ended).flatMap Arrival.marks ∧
        (ofScript name timeout script).heard n = Segment.replies name {} taken ∧
        ((ofScript name timeout script).later n).HoldsThroughout taken := by
  obtain ⟨k, taken, -, heq, hfollows, hheard⟩ :=
    Channel.exists_taken_later (c := ofScript name timeout script) n Follows.empty (Nat.le_refl n) 0
  refine ⟨taken.map Prod.snd, k, ?_, ?_, ?_⟩
  · have hmarks := congrArg (List.map Prod.snd) heq
    rw [Arrival.map_snd_timed, List.map_append, Arrival.map_snd_timed, Channel.ahead_ofScript,
      ← Signal.arrivals_append_ended] at hmarks
    exact hmarks
  · rw [← hheard, Segment.map_snd_due]
    rfl
  · exact hfollows.holdsThroughout (Segment.bytes_afterAll _)
      (Channel.fit_later _ n (Signal.fit_arrivals script))

/-- After the line and an idle call, the beginning of the next line is held. -/
theorem holdsThroughout_later_of_idle :
    ((ofScript "mock" 20 [.chunk 0x61 [0x0A, 0x62], .silence 30]).later 2).framer.HoldsLine
      [0x62] := by
  obtain ⟨taken, k, -, -, h⟩ :=
    holdsThroughout_later "mock" 20 [.chunk 0x61 [0x0A, 0x62], .silence 30] 2
  have hline : currentLine taken = [0x62] := by
    rw [← h.before.held_of_not_dropping (by decide +kernel)]
    decide +kernel
  exact hline ▸ h.before

end Device
end TelemetryLog
