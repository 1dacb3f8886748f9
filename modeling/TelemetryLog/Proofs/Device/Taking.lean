import TelemetryLog.Proofs.Device.Framing

/-!
# What a call takes from its stream

A call takes marks from its stream until one of them completes a reply, or until its time is up in
the middle of a silence.  Here marks come with the time at which they are there, which is the sum of
the silences before them (`Arrival.timed`), and so do the replies that they complete
(`Segment.due`).

`Takes` says what one call makes of a stream: it takes a part of it, it returns the one reply that
this part completes, at the time of the mark that completes it, and it leaves the rest to the calls
that follow.  `readFrom_takesSome` is that for every call, and `exists_taken_later` for many.

This says more than `Proofs.Device.Framing`, which only compares the replies.  With the part that
was taken in hand it can be said when a reply comes (`Proofs.Device.Timing`) and what is held at any
moment (`Proofs.Device.Memory`).

## How it goes

What is before a call is the rest of a block and the arrivals after it (`ahead`), so the stream is
always one list of arrivals, and taking is splitting a list of marks.  There is one subtlety: the
end of a read belongs to its block, so when a line is complete at the very end of a block, the end
of that read is taken as well.  The segment is then empty and the mark is no news to it, but the
list must be split somewhere.  `Follows` adds to `Tracks` that there is nothing left to settle, and
it is what holds between calls.

`TakesSome` leaves open how many ends of file remain after the stream, since a call after the last
arrival takes one more of them.  A line, an end of file, a failure and a silence that is too long
each have a lemma for what is taken last; `takesSome_of_no_line` and `takesSome_block` are the two
steps by which a call comes there.
-/

set_option autoImplicit false

namespace TelemetryLog
namespace Device

open Channel (Reply Read)

/-- Putting one time to things and taking it away again. -/
theorem map_snd_map_at {α : Type} (t : Nat) (xs : List α) :
    (xs.map (t, ·)).map Prod.snd = xs := by
  rw [List.map_map]
  exact List.map_id xs

/-! ## Replies with times

A reply is due at the time of the mark that completes it.  This is the reference of the last module
with a time carried along, and forgetting the times gives that one back (`map_snd_due`). -/

namespace Segment

/-- The replies that a stream amounts to, each at the time of the mark that completes it. -/
def due (name : String) (s : Segment) : List (Nat × Mark) → List (Nat × Reply)
  | [] => []
  | (t, m) :: tms => (s.replies name [m]).map (t, ·) ++ due name (s.after m) tms

theorem due_append (name : String) (s : Segment) (as bs : List (Nat × Mark)) :
    due name s (as ++ bs) = due name s as ++ due name (s.afterAll (as.map Prod.snd)) bs := by
  induction as generalizing s with
  | nil => rfl
  | cons a as ih =>
    rw [List.cons_append, due, due, ih, List.append_assoc]
    rfl

/-- Marks that are there at one time complete their replies at that time. -/
theorem due_map (name : String) (s : Segment) (t : Nat) (ms : List Mark) :
    due name s (ms.map (t, ·)) = (s.replies name ms).map (t, ·) := by
  induction ms generalizing s with
  | nil => rfl
  | cons m ms ih => rw [List.map_cons, due, ih, replies_cons name s m ms, List.map_append]

/-- Without their times, these are the replies of the stream. -/
theorem map_snd_due (name : String) (s : Segment) (tms : List (Nat × Mark)) :
    (due name s tms).map Prod.snd = s.replies name (tms.map Prod.snd) := by
  induction tms generalizing s with
  | nil => rfl
  | cons tm tms ih =>
    rw [due, List.map_append, ih, map_snd_map_at, List.map_cons, ← replies_cons]

/-- A reply comes no sooner than the marks. -/
theorem le_of_mem_due {name : String} {s : Segment} {tms : List (Nat × Mark)} {t : Nat}
    (h : ∀ tm ∈ tms, t ≤ tm.1) : ∀ e ∈ due name s tms, t ≤ e.1 := by
  induction tms generalizing s with
  | nil => simp [due]
  | cons tm tms ih =>
    intro e he
    rw [due, List.mem_append] at he
    rcases he with he | he
    · obtain ⟨r, -, rfl⟩ := List.mem_map.1 he
      exact h tm List.mem_cons_self
    · exact ih (fun tm' hmem => h tm' (List.mem_cons_of_mem _ hmem)) e he

/-- The end of a read would be no news, because there has just been one or because there is nothing
that could be too long. -/
def isSettled (s : Segment) : Prop := s.cut = true ∨ s.bytes = []

end Segment

/-! ## Streams with times

A silence shifts the times of everything after it and leaves no mark, so a call that is over in the
middle of one takes nothing and still leaves the marks after it at the times they had. -/

theorem Signal.arrivals_append_ended (script : List Signal) (n : Nat) :
    (script ++ List.replicate n Signal.ended).flatMap arrivals =
      script.flatMap arrivals ++ List.replicate n Arrival.ended := by
  rw [List.flatMap_append]
  congr 1
  induction n with
  | zero => rfl
  | succ n ih => exact congrArg (Arrival.ended :: ·) ih

namespace Arrival

/-- The marks of a stream from the time `t` on, each with the time at which it is there. -/
def timed (t : Nat) : List Arrival → List (Nat × Mark)
  | [] => []
  | a :: as => a.marks.map (t, ·) ++ timed (t + a.quietTime) as

theorem map_snd_timed (t : Nat) (as : List Arrival) :
    (timed t as).map Prod.snd = as.flatMap marks := by
  induction as generalizing t with
  | nil => rfl
  | cons a as ih => rw [timed, List.map_append, map_snd_map_at, ih, List.flatMap_cons]

theorem le_of_mem_timed {t : Nat} {as : List Arrival} : ∀ tm ∈ timed t as, t ≤ tm.1 := by
  induction as generalizing t with
  | nil => simp [timed]
  | cons a as ih =>
    intro tm hmem
    rw [timed, List.mem_append] at hmem
    rcases hmem with hmem | hmem
    · obtain ⟨m, -, rfl⟩ := List.mem_map.1 hmem
      exact Nat.le_refl t
    · exact Nat.le_trans (Nat.le_add_right _ _) (ih tm hmem)

/-- What is left of a block, and the arrivals after it. -/
def aheadOf (block : List UInt8) (as : List Arrival) : List Arrival :=
  if block = [] then as else .block block :: as

/-- The marks of what is left of a block. -/
def blockMarks (block : List UInt8) : List Mark :=
  if block = [] then [] else Mark.ofBytes block ++ [.readEnd]

theorem aheadOf_append (block : List UInt8) (as bs : List Arrival) :
    aheadOf block as ++ bs = aheadOf block (as ++ bs) := by
  rw [aheadOf, aheadOf]
  split <;> rfl

theorem timed_aheadOf (t : Nat) (block : List UInt8) (as : List Arrival) :
    timed t (aheadOf block as) = (blockMarks block).map (t, ·) ++ timed t as := by
  rw [aheadOf, blockMarks]
  split <;> rfl

theorem timed_aheadOf_append (t : Nat) (block : List UInt8) (as bs : List Arrival) :
    timed t (aheadOf block as ++ bs) = (blockMarks block).map (t, ·) ++ timed t (as ++ bs) := by
  rw [aheadOf_append, timed_aheadOf]

theorem timed_silence (t ms : Nat) (as : List Arrival) :
    timed t (.silence ms :: as) = timed (t + ms) as := rfl

/-- A block that has been read is before the arrivals. -/
theorem timed_block (t : Nat) (block : List UInt8) (as : List Arrival) :
    timed t (.block block :: as) =
      (if block = [] then [(t, .readEnd)] else []) ++ timed t (aheadOf block as) := by
  rw [aheadOf]
  split
  · rename_i hnil
    subst hnil
    rfl
  · rfl

theorem blockMarks_append (used rest : List UInt8) (h : used ≠ []) :
    ∃ ms, blockMarks (used ++ rest) = Mark.ofBytes used ++ ms ++ blockMarks rest ∧
      ms = if rest = [] then [.readEnd] else [] := by
  refine ⟨_, ?_, rfl⟩
  rw [blockMarks, blockMarks, if_neg (by simp [h])]
  split
  · rename_i hrest
    simp [hrest]
  · simp [Mark.ofBytes]

end Arrival

namespace Channel

/-- What a channel has still to give. -/
def ahead (c : Channel) : List Arrival := Arrival.aheadOf c.block c.arrivals

theorem ahead_ofScript (name : String) (timeout : Nat) (script : List Signal) :
    (ofScript name timeout script).ahead = script.flatMap Signal.arrivals := rfl

end Channel

/-! ## Scanning a block

Between two calls there may be one mark that the framer has not been told of, the end of a read.
`Follows` says that it would be no news, so a call may begin as if it had been told. -/

theorem Tracks.settle_eq {f : Framer} {s : Segment} (h : Tracks f s) (hs : s.isSettled) :
    f.settle = (f, false) := by
  cases h with
  | @whole _ held hheld hcut =>
    have hlen : held.size ≤ maxLine := by
      rw [← Array.length_toList, hheld]
      rcases hs with hs | hs
      · exact hcut hs
      · simp [hs]
    exact if_neg (Nat.not_lt.2 hlen)
  | dropping hlong => rfl

/-- Where a call begins to look at a block, or is over, the framer knows what it needs of the
segment, and there is nothing left to settle. -/
structure Follows (f : Framer) (s : Segment) : Prop where
  /-- The framer knows what it needs. -/
  tracks : Tracks f s
  /-- The segment is settled. -/
  settled : s.isSettled

namespace Follows

variable {f : Framer} {block : List UInt8} {s : Segment}

theorem empty : Follows {} {} := ⟨Tracks.empty, .inr rfl⟩

/-- The end of a read is no news. -/
theorem atReadEnd (h : Follows f s) : Follows f s.atReadEnd := by
  have hsettle := h.tracks.settle
  rw [h.tracks.settle_eq h.settled] at hsettle
  exact ⟨hsettle, .inl rfl⟩

/-- A line in the block is completed by what is taken up to it. -/
theorem scan_of_line (h : Follows f s) {line : List UInt8}
    (hline : (f.scan 0 block).line = some line) (name : String) :
    ∃ ms, Arrival.blockMarks block = ms ++ Arrival.blockMarks (f.scan 0 block).rest ∧
      s.replies name ms = [.line (Utf8.lossyText line)] ∧ Follows {} (s.afterAll ms) := by
  obtain ⟨used, hbs, hne, hreplies, hafter⟩ := h.tracks.scan_of_line hline name
  generalize (f.scan 0 block).rest = rest at hbs
  subst hbs
  obtain ⟨ms, hms, hend⟩ := Arrival.blockMarks_append used rest hne
  refine ⟨Mark.ofBytes used ++ ms, hms, ?_, ?_⟩
  · rw [Segment.replies_append, hreplies, hafter, hend]
    split <;> rfl
  · rw [Segment.afterAll_append, hafter, hend]
    split
    · exact Follows.empty.atReadEnd
    · exact Follows.empty

/-- A block without a line is used up. -/
theorem scan_of_no_line (h : Follows f s) (hline : (f.scan 0 block).line = none)
    (name : String) :
    Follows (f.scan 0 block).framer (s.afterAll (Arrival.blockMarks block)) ∧
      s.replies name (Arrival.blockMarks block) = [] := by
  rw [Arrival.blockMarks]
  split
  · rename_i hnil
    subst hnil
    rw [Framer.scan, h.tracks.settle_eq h.settled]
    exact ⟨h, rfl⟩
  · obtain ⟨htracks, hcut, hreplies⟩ := h.tracks.scan_of_no_line hline name
    exact ⟨⟨htracks, .inl hcut⟩, hreplies⟩

end Follows

/-! ## One call

A call takes marks off the front of what is before it, and its reply is due at the last of them.
One lemma for each way in which a call can end, and one each for a block and for a silence that it
goes on after; the induction only puts them together. -/

/-- What a call makes of the marks that are before it: it takes some of them, with one more mark of
the `k` ends of file after its stream at most, and it is over at the time `now`. -/
structure Takes (name : String) (s : Segment) (before : List (Nat × Mark)) (r : Read) (now k : Nat)
    (taken : List (Nat × Mark)) : Prop where
  /-- What is not taken is left to the calls that follow. -/
  eq_append : before =
    taken ++ Arrival.timed now (r.channel.ahead ++ List.replicate k .ended)
  /-- The channel knows what it has taken. -/
  follows : Follows r.channel.framer (s.afterAll (taken.map Prod.snd))
  /-- What is taken completes the reply, unless the call is idle, and nothing else. -/
  due_eq : Segment.due name s taken = ([r.reply].filter (· ≠ .idle)).map (now, ·)

/-- Marks that complete nothing may come first. -/
theorem Takes.cons {name : String} {s : Segment} {ms : List Mark}
    (hms : s.replies name ms = []) {before taken : List (Nat × Mark)} {r : Read} {now k : Nat}
    (h : Takes name (s.afterAll ms) before r now k taken) (t : Nat) :
    Takes name s (ms.map (t, ·) ++ before) r now k (ms.map (t, ·) ++ taken) := by
  refine ⟨by rw [h.eq_append, List.append_assoc], ?_, ?_⟩
  · rw [List.map_append, map_snd_map_at, Segment.afterAll_append]
    exact h.follows
  · rw [Segment.due_append, map_snd_map_at, Segment.due_map, hms]
    exact h.due_eq

namespace Channel

section Takes

variable {c : Channel} {s : Segment} (h : Follows c.framer s) (hblock : c.block = [])

include h hblock

/-- An end of file is the last mark that a call takes. -/
theorem takes_ended (as : List Arrival) (k t elapsed : Nat) (events : List Event) :
    Takes c.name s ((t, .ended) :: Arrival.timed t (as ++ List.replicate k .ended))
      ⟨c.endOfFile, { c with arrivals := as, framer := {} }, elapsed, events⟩ t k
      [(t, .ended)] := by
  refine ⟨?_, Follows.empty, ?_⟩
  · rw [ahead, hblock]
    rfl
  · rw [h.atReadEnd.tracks.endOfFile rfl, Segment.filter_atEnd]
    rfl

/-- A failure is the last mark that a call takes. -/
theorem takes_failure (detail : String) (as : List Arrival) (k t elapsed : Nat)
    (events : List Event) :
    Takes c.name s ((t, .failure detail) :: Arrival.timed t (as ++ List.replicate k .ended))
      ⟨.failed (.serial (.cannotRead c.name detail)), { c with arrivals := as }, elapsed, events⟩
      t k [(t, .failure detail)] := by
  refine ⟨?_, h, rfl⟩
  rw [ahead, hblock]
  rfl

/-- A call that is over in the middle of a silence takes nothing more. -/
theorem takes_silence {ms left : Nat} (hleft : left ≤ ms) (as : List Arrival)
    (k t elapsed : Nat) (events : List Event) :
    Takes c.name s (Arrival.timed t (.silence ms :: as ++ List.replicate k .ended))
      ⟨.idle, { c with arrivals := .silence (ms - left) :: as }, elapsed, events⟩ (t + left) k
      [] := by
  refine ⟨?_, h, rfl⟩
  rw [ahead, hblock, List.nil_append, List.cons_append, Arrival.timed_silence,
    show t + ms = t + left + (ms - left) by omega]
  rfl

end Takes

/-- A call takes a part of the marks that are before it, and leaves at least `k` ends of file. -/
def TakesSome (name : String) (s : Segment) (before : List (Nat × Mark)) (r : Read)
    (now k : Nat) : Prop :=
  ∃ k' taken, k ≤ k' ∧ Takes name s before r now k' taken

section TakesSome

variable {c : Channel} {s : Segment} (h : Follows c.framer s)

include h

/-- A line that is complete in the block is taken, and the rest of the block is left. -/
theorem takesSome_line {line : List UInt8} (hline : (c.framer.scan 0 c.block).line = some line)
    (as : List Arrival) (k t elapsed : Nat) (events : List Event) :
    TakesSome c.name s (Arrival.timed t (Arrival.aheadOf c.block as ++ List.replicate k .ended))
      ⟨.line (Utf8.lossyText line), { c.after (c.framer.scan 0 c.block) with arrivals := as },
        elapsed, events⟩ t k := by
  obtain ⟨ms, hms, hreplies, hfollows⟩ := h.scan_of_line hline c.name
  refine ⟨k, ms.map (t, ·), Nat.le_refl k, ?_, ?_, ?_⟩
  · rw [Arrival.timed_aheadOf_append, hms, List.map_append, List.append_assoc,
      ← Arrival.timed_aheadOf_append]
    rfl
  · show Follows (c.framer.scan 0 c.block).framer _
    rw [map_snd_map_at, Framer.scan_framer_of_line hline]
    exact hfollows
  · rw [Segment.due_map, hreplies]
    rfl

/-- A block without a line is taken as a whole, and the call goes on from there. -/
theorem takesSome_of_no_line (hline : (c.framer.scan 0 c.block).line = none) {as : List Arrival}
    {r : Read} {n t now k : Nat}
    (hafter : Follows (c.framer.scan 0 c.block).framer
        (s.afterAll (Arrival.blockMarks c.block)) →
      TakesSome c.name (s.afterAll (Arrival.blockMarks c.block))
        (Arrival.timed t (as ++ List.replicate n .ended)) r now k) :
    TakesSome c.name s (Arrival.timed t (Arrival.aheadOf c.block as ++ List.replicate n .ended))
      r now k := by
  obtain ⟨hfollows, hreplies⟩ := h.scan_of_no_line hline c.name
  obtain ⟨k', taken, hk, htakes⟩ := hafter hfollows
  rw [Arrival.timed_aheadOf_append]
  exact ⟨k', _, hk, htakes.cons hreplies t⟩

/-- The next block is read.  A block of no bytes has an end all the same. -/
theorem takesSome_block {bs : List UInt8} {as : List Arrival} {r : Read} {n t now k : Nat}
    (hread : ∀ s', Follows c.framer s' → TakesSome c.name s'
      (Arrival.timed t (Arrival.aheadOf bs as ++ List.replicate n .ended)) r now k) :
    TakesSome c.name s (Arrival.timed t (.block bs :: as ++ List.replicate n .ended)) r now k := by
  rw [List.cons_append, Arrival.timed_block, ← Arrival.aheadOf_append]
  split
  · obtain ⟨k', taken, hk, htakes⟩ := hread _ h.atReadEnd
    have hnone : s.replies c.name [.readEnd] = [] := rfl
    exact ⟨k', _, hk, htakes.cons hnone t⟩
  · exact hread s h

end TakesSome

/-- **A call takes the marks up to its reply**, or up to where its time is over. -/
theorem readFrom_takesSome (k : Nat) (c : Channel) (p : Patience) (events : List Event)
    (as : List Arrival) :
    p.stop = none → ∀ s start, Follows c.framer s →
      TakesSome c.name s
        (Arrival.timed (start + p.spent)
          (Arrival.aheadOf c.block as ++ List.replicate (k + 1) .ended))
        (readFrom c p events as) (start + (readFrom c p events as).elapsed) k := by
  fun_induction readFrom c p events as with
  | case1 as c p events sc ev c' bytes hline =>
    intro _ s start h
    obtain ⟨k', taken, hk, htakes⟩ := takesSome_line h hline as (k + 1) _ p.spent ev
    exact ⟨k', taken, Nat.le_of_succ_le hk, htakes⟩
  | case2 c p events sc ev c' hline =>
    intro _ s start h
    refine takesSome_of_no_line h hline fun hfollows => ?_
    have htakes := takes_ended (c := c') hfollows (Framer.scan_rest_eq_nil hline) [] k
    exact ⟨k, _, Nat.le_refl k, htakes _ _ _⟩
  | case3 c p events sc ev c' hline more =>
    intro _ s start h
    refine takesSome_of_no_line h hline fun hfollows => ?_
    have htakes := takes_ended (c := c') hfollows (Framer.scan_rest_eq_nil hline) more (k + 1)
    exact ⟨k + 1, _, Nat.le_succ k, htakes _ _ _⟩
  | case4 c p events sc ev c' hline detail more =>
    intro _ s start h
    refine takesSome_of_no_line h hline fun hfollows => ?_
    have htakes := takes_failure (c := c') hfollows (Framer.scan_rest_eq_nil hline) detail more
    exact ⟨k + 1, _, Nat.le_succ k, htakes (k + 1) _ _ _⟩
  | case5 c p events sc ev c' hline bs more ih =>
    intro hp s start h
    refine takesSome_of_no_line h hline fun hfollows => ?_
    exact takesSome_block (c := c') hfollows fun s' hs' => ih hp s' start hs'
  | case6 c p events sc ev c' hline ms more q hw ih =>
    intro hp s start h
    obtain ⟨rfl, -, -⟩ := Patience.of_wait_through hw
    refine takesSome_of_no_line h hline fun hfollows => ?_
    have hrest := ih (by rw [Patience.less, hp]; rfl) _ start hfollows
    rw [show c'.block = [] from Framer.scan_rest_eq_nil hline, Patience.less_spent,
      ← Nat.add_assoc] at hrest
    exact hrest
  | case7 c p events sc ev c' hline ms more hw =>
    intro _ s start h
    refine takesSome_of_no_line h hline fun hfollows => ⟨k + 1, [], Nat.le_succ k, ?_⟩
    have hsilence := takes_silence (c := c') hfollows (Framer.scan_rest_eq_nil hline)
      (Nat.le_of_lt (Patience.of_wait_timedOut hw).1) more (k + 1) (start + p.spent)
      (p.spent + p.left) ev
    rw [Nat.add_assoc] at hsilence
    exact hsilence
  | case8 c p events sc ev c' hline ms more moment hw =>
    intro hp
    exact absurd (Patience.of_wait_stopped hw).1 (by simp [hp])

variable {c : Channel} {s : Segment}

theorem read_takesSome (h : Follows c.framer s) (k t : Nat) :
    TakesSome c.name s (Arrival.timed t (c.ahead ++ List.replicate (k + 1) .ended)) c.read
      (t + c.read.elapsed) k :=
  readFrom_takesSome k c ⟨c.timeout, none, 0⟩ [] c.arrivals rfl s t h

/-! ## Many calls -/

theorem heard_succ (c : Channel) (n : Nat) :
    c.heard (n + 1) = [c.read.reply].filter (· ≠ .idle) ++ c.read.channel.heard n :=
  List.filter_append [c.read.reply] (c.read.channel.replies n)

theorem later_name (c : Channel) (n : Nat) : (c.later n).name = c.name := by
  induction n generalizing c with
  | zero => rfl
  | succ n ih => rw [later, ih, read_name]

theorem later_timeout (c : Channel) (n : Nat) : (c.later n).timeout = c.timeout := by
  induction n generalizing c with
  | zero => rfl
  | succ n ih => rw [later, ih, read_timeout]

/-- **Calls take the stream part by part.**  What is left of it comes at the same times as before,
and what has been taken completes just the replies that have been heard. -/
theorem exists_taken_later (n : Nat) {c : Channel} {s : Segment}
    (h : Follows c.framer s) {m : Nat} (hm : n ≤ m) (t : Nat) :
    ∃ k taken, m ≤ k + n ∧
      Arrival.timed t (c.ahead ++ List.replicate m .ended) =
        taken ++ Arrival.timed (t + c.clock n) ((c.later n).ahead ++ List.replicate k .ended) ∧
      Follows (c.later n).framer (s.afterAll (taken.map Prod.snd)) ∧
      (Segment.due c.name s taken).map Prod.snd = c.heard n := by
  induction n generalizing c s m t with
  | zero => exact ⟨m, [], Nat.le_refl m, rfl, h, rfl⟩
  | succ n ih =>
    obtain ⟨m, rfl⟩ : ∃ m', m = m' + 1 := ⟨m - 1, by omega⟩
    obtain ⟨k₁, first, hk₁, htakes⟩ := read_takesSome h m t
    obtain ⟨k, rest, hk, hrest, hfollows, hheard⟩ :=
      ih htakes.follows (m := k₁) (by omega) (t + c.read.elapsed)
    rw [read_name] at hheard
    refine ⟨k, first ++ rest, by omega, ?_, ?_, ?_⟩
    · rw [htakes.eq_append, hrest, List.append_assoc, clock, later, Nat.add_assoc]
    · rw [List.map_append, Segment.afterAll_append]
      exact hfollows
    · rw [Segment.due_append, List.map_append, htakes.due_eq, hheard, map_snd_map_at, heard_succ]

end Channel

end Device
end TelemetryLog
