import TelemetryLog.Proofs.Device.Waiting

/-!
# What the lines of a stream are

A channel cuts its stream into lines while it reads, a block at a time, with calls that time out in
between.  This file says what the lines are without any of that.

A `Mark` is what can be told apart on a stream: its bytes, where a read ends, and what goes wrong.
The bytes since the last line feed or end of file are the current `Segment`.  A line feed makes a
line of it if it is short enough (`Segment.line?`), an end of file makes a line of it as it is
(`Segment.atEnd`), and `Segment.replies` is what a whole stream amounts to.

The main statement is that calling a channel again and again gives just these replies, apart from
the idle ones.  It rests on an invariant between the framer and the segment, `Tracks`.

## Why marks

The end of a read is a mark because it can be seen in the lines: a line that is too long at the end
of a read is dropped there, although its line feed may show that it was not (`splitsFull`).  It is
the only trace that the division into blocks leaves.  Silences leave none, so nothing that is said
here mentions time, and a segment knows nothing of the framer: it keeps all the bytes of a line,
even of one that the framer has long dropped.

## How the proof goes

* `Tracks f s` says that the framer `f` knows what it needs of the segment `s`: it holds all of its
  bytes, or it is dropping and the segment is too long for a line.  Every byte and the end of a read
  keep this (`push`, `settle`), and a line feed makes the same of both (`finish`).
* A block is scanned up to the first line that is complete (`scan_of_line`), or to its end
  (`scan_of_no_line`).  This is the induction over the bytes.
* A call goes on through blocks and silences until there is something to return.  `Answers` says
  what it makes of the marks before it: the next reply, unless it is idle, and the rest of them left
  behind.  There is one lemma for each way in which a call is over, and `readFrom_answers` puts them
  together along the recursion of the call.
* Calls follow each other, each with what the one before has left (`heard_append_prefix`).

Everything is stated with so many ends of file after the script.  A call after the last signal finds
one more of them, and a statement about a list that is long enough says the same as one about a
stream that has ended for good.  That the list is heard up to any length one likes is the second
half of the main statement: calls can be idle only as often as the silences of the script allow.
-/

set_option autoImplicit false

namespace TelemetryLog
namespace Device

open Channel (Reply)

/-! ## Marks

A stream is flattened into marks, so that a call may stop anywhere in it and what is left is again a
list of marks.  The end of a read is a mark of its own, because where a stream was cut into reads is
what the one exception is about. -/

/-- What can be told apart on a stream. -/
inductive Mark where
  /-- A byte. -/
  | byte (b : UInt8)
  /-- A read gave all the bytes up to here, and no more. -/
  | readEnd
  /-- A read failed. -/
  | failure (detail : String)
  /-- A read found the end of the file. -/
  | ended
deriving DecidableEq, Repr

namespace Mark

/-- The marks of the bytes of a read. -/
def ofBytes (bs : List UInt8) : List Mark := bs.map .byte

theorem ofBytes_cons_append (b : UInt8) (bs : List UInt8) (ms : List Mark) :
    ofBytes (b :: bs) ++ ms = .byte b :: (ofBytes bs ++ ms) := rfl

end Mark

namespace Arrival

/-- The marks of an arrival; a silence leaves none. -/
def marks : Arrival → List Mark
  | .block bs => Mark.ofBytes bs ++ [.readEnd]
  | .silence _ => []
  | .failure detail => [.failure detail]
  | .ended => [.ended]

end Arrival

/-- The marks of a script. -/
def Signal.marks (script : List Signal) : List Mark :=
  (script.flatMap Signal.arrivals).flatMap Arrival.marks

/-! ## Segments

The reference.  It keeps all bytes since the last line feed and looks at their number only when the
line is complete, so it has no limit of its own and nothing to give up in the middle of a line. -/

/-- The bytes since the last line feed or end of file. -/
structure Segment where
  /-- The bytes. -/
  bytes : List UInt8 := []
  /-- Did a read end after the last of them? -/
  cut : Bool := false
deriving DecidableEq, Repr

namespace Segment

/-- The bytes without the carriage return that belongs to the line end. -/
def content (bs : List UInt8) : List UInt8 :=
  if bs.getLast? = some Csv.cr then bs.dropLast else bs

/-- Is this a line of just the greatest length whose carriage return and line feed come in different
reads? -/
def splitsFull (s : Segment) : Bool :=
  s.cut && (content s.bytes).length == maxLine && s.bytes.length == maxLine + 1

/-- The line that a line feed makes of the segment, if it is not dropped. -/
def line? (s : Segment) : Option (List UInt8) :=
  if maxLine < (content s.bytes).length || s.splitsFull then none else some (content s.bytes)

/-- What an end of file makes of the segment. -/
def atEnd (name : String) (s : Segment) : Reply :=
  if s.bytes = [] ∨ maxLine < s.bytes.length then .failed (.disconnected name)
  else .line (Utf8.lossyText s.bytes)

theorem filter_atEnd (name : String) (s : Segment) :
    [s.atEnd name].filter (· ≠ .idle) = [s.atEnd name] := by
  rw [atEnd]
  split <;> rfl

/-- The segment with one more byte. -/
def push (s : Segment) (b : UInt8) : Segment := ⟨s.bytes ++ [b], false⟩

/-- The segment when a read ends. -/
def atReadEnd (s : Segment) : Segment := { s with cut := true }

/-- The replies that a stream amounts to. -/
def replies (name : String) (s : Segment) : List Mark → List Reply
  | [] => []
  | .byte b :: ms =>
    if b = Csv.lf then
      (s.line?.map fun bs => .line (Utf8.lossyText bs)).toList ++ replies name {} ms
    else replies name (s.push b) ms
  | .readEnd :: ms => replies name s.atReadEnd ms
  | .failure detail :: ms => .failed (.serial (.cannotRead name detail)) :: replies name s ms
  | .ended :: ms => s.atEnd name :: replies name {} ms

theorem replies_lf (name : String) (s : Segment) (ms : List Mark) :
    replies name s (.byte Csv.lf :: ms) =
      (s.line?.map fun bs => .line (Utf8.lossyText bs)).toList ++ replies name {} ms := by
  rw [replies, if_pos rfl]

theorem replies_push (name : String) (s : Segment) {b : UInt8} (hb : b ≠ Csv.lf)
    (ms : List Mark) : replies name s (.byte b :: ms) = replies name (s.push b) ms := by
  rw [replies, if_neg hb]

/-- Where a read ends does not matter before the first byte of a segment. -/
theorem replies_atReadEnd_nil (name : String) (ms : List Mark) :
    replies name (atReadEnd {}) ms = replies name {} ms := by
  induction ms with
  | nil => rfl
  | cons m ms ih =>
    cases m with
    | byte b => rfl
    | readEnd => rfl
    | failure detail => rw [replies, replies, ih]
    | ended => rfl

/-- The segment after a mark. -/
def after (s : Segment) : Mark → Segment
  | .byte b => if b = Csv.lf then {} else s.push b
  | .readEnd => s.atReadEnd
  | .failure _ => s
  | .ended => {}

/-- The segment after marks, one after the other. -/
def afterAll (s : Segment) (ms : List Mark) : Segment := ms.foldl after s

theorem afterAll_append (s : Segment) (as bs : List Mark) :
    s.afterAll (as ++ bs) = (s.afterAll as).afterAll bs := List.foldl_append

theorem after_lf (s : Segment) : s.after (.byte Csv.lf) = {} := by rw [after, if_pos rfl]

theorem after_of_ne_lf (s : Segment) {b : UInt8} (hb : b ≠ Csv.lf) :
    s.after (.byte b) = s.push b := by rw [after, if_neg hb]

/-- A mark completes what it completes, whatever comes after it. -/
theorem replies_cons (name : String) (s : Segment) (m : Mark) (ms : List Mark) :
    replies name s (m :: ms) = replies name s [m] ++ replies name (s.after m) ms := by
  cases m with
  | byte b =>
    rw [replies, replies, after]
    split
    · rw [replies, List.append_nil]
    · rfl
  | readEnd => rfl
  | failure detail => rfl
  | ended => rfl

theorem replies_append (name : String) (s : Segment) (as bs : List Mark) :
    replies name s (as ++ bs) = replies name s as ++ replies name (s.afterAll as) bs := by
  induction as generalizing s with
  | nil => rfl
  | cons a as ih =>
    rw [List.cons_append, replies_cons, ih, replies_cons name s a as, List.append_assoc]
    rfl

/-- More of a stream gives more replies. -/
theorem replies_prefix_append (name : String) (s : Segment) (ms more : List Mark) :
    replies name s ms <+: replies name s (ms ++ more) := by
  rw [replies_append]
  exact List.prefix_append _ _

theorem length_le_content (bs : List UInt8) : bs.length ≤ (content bs).length + 1 := by
  rw [content]
  split
  · rw [List.length_dropLast]
    omega
  · omega

/-- A segment that was too long when a read ended makes no line. -/
theorem line?_eq_none {s : Segment}
    (h : maxLine + 1 < s.bytes.length ∨ s.cut = true ∧ maxLine < s.bytes.length) :
    s.line? = none := by
  have hle := length_le_content s.bytes
  refine if_pos ?_
  by_cases hc : maxLine < (content s.bytes).length
  · simp [hc]
  · rcases h with hlong | ⟨hcut, hlong⟩
    · omega
    · have h1 : (content s.bytes).length = maxLine := by omega
      have h2 : s.bytes.length = maxLine + 1 := by omega
      simp [splitsFull, hcut, h1, h2]

/-- A segment that was short enough when a read ended is only judged by its content. -/
theorem line?_of_cut_le {s : Segment} (h : s.cut = true → s.bytes.length ≤ maxLine) :
    s.line? = if maxLine < (content s.bytes).length then none else some (content s.bytes) := by
  have hs : s.splitsFull = false := by
    by_cases hcut : s.cut = true
    · have hlen : s.bytes.length ≠ maxLine + 1 := by have := h hcut; omega
      simp [splitsFull, hlen]
    · simp [splitsFull, hcut]
  simp [line?, hs]

/-- One more end of file gives more replies. -/
theorem replies_prefix_ended (name : String) (s : Segment) (ms : List Mark) (k : Nat) :
    replies name s (ms ++ List.replicate k .ended) <+:
      replies name s (ms ++ List.replicate (k + 1) .ended) := by
  rw [List.replicate_succ', ← List.append_assoc]
  exact replies_prefix_append name s _ [.ended]

end Segment

/-! ## The framer and the segment

The framer forgets a line once it is too long, and the segment does not.  So the invariant has two
cases, and a framer that is dropping is compatible with every segment that can no longer become a
line, however many bytes have come since. -/

/-- The framer knows what it needs of the segment: all of its bytes, or that it will not be a line
any more. -/
inductive Tracks : Framer → Segment → Prop
  | whole {s : Segment} {held : Array UInt8} (hheld : held.toList = s.bytes)
      (hcut : s.cut = true → s.bytes.length ≤ maxLine) : Tracks ⟨held, false⟩ s
  | dropping {s : Segment}
      (hlong : maxLine + 1 < s.bytes.length ∨ s.cut = true ∧ maxLine < s.bytes.length) :
      Tracks ⟨#[], true⟩ s

namespace Tracks

theorem empty : Tracks {} {} := whole rfl (fun h => absurd h (by decide))

variable {f : Framer} {s : Segment}

theorem push (h : Tracks f s) (b : UInt8) : Tracks (f.push b) (s.push b) := by
  cases h with
  | whole hheld hcut =>
    refine whole ?_ (fun h => absurd h (by simp [Segment.push]))
    simp [Segment.push, hheld]
  | dropping hlong =>
    refine dropping (.inl ?_)
    rw [Segment.push, List.length_append, List.length_singleton]
    omega

theorem settle (h : Tracks f s) : Tracks f.settle.1 s.atReadEnd := by
  cases h with
  | @whole _ held hheld hcut =>
    rw [Framer.settle, ← Array.length_toList, hheld]
    split
    · rename_i hlong
      exact dropping (.inr ⟨rfl, hlong⟩)
    · rename_i hlong
      exact whole hheld (fun _ => Nat.le_of_not_lt hlong)
  | dropping hlong =>
    refine dropping ?_
    rcases hlong with h | ⟨-, h⟩
    · exact .inl h
    · exact .inr ⟨rfl, h⟩

theorem content_eq {held : Array UInt8} (hheld : held.toList = s.bytes) :
    (⟨held, false⟩ : Framer).content = Segment.content s.bytes := by
  rw [Framer.content, Segment.content, ← hheld, Array.toList_pop, Array.getLast?_toList]

/-- What a line feed completes is the line of the segment. -/
theorem finish (h : Tracks f s) :
    s.line? = match f.finish with
      | .line bytes => some bytes
      | .tooLong => none
      | .rest => none := by
  cases h with
  | whole hheld hcut =>
    rw [Segment.line?_of_cut_le hcut, Framer.finish, content_eq hheld]
    by_cases hlong : maxLine < (Segment.content s.bytes).length <;> simp [hlong]
  | dropping hlong => exact Segment.line?_eq_none hlong

theorem replies_lf (h : Tracks f s) (name : String) (ms : List Mark) :
    s.replies name (.byte Csv.lf :: ms) =
      (match f.finish with
        | .line bytes => [.line (Utf8.lossyText bytes)]
        | .tooLong => []
        | .rest => []) ++ Segment.replies name {} ms := by
  rw [Segment.replies_lf, h.finish]
  cases f.finish <;> rfl

/-- A line feed that completes no line just begins a new segment. -/
theorem replies_lf_of_no_line (h : Tracks f s) (hfin : ∀ bytes, f.finish ≠ .line bytes)
    (name : String) (ms : List Mark) :
    s.replies name (.byte Csv.lf :: ms) = Segment.replies name {} ms := by
  rw [h.replies_lf]
  cases hf : f.finish with
  | line bytes => exact absurd hf (hfin bytes)
  | tooLong => rfl
  | rest => rfl

/-- An end of file makes the same of the framer and of the segment. -/
theorem endOfFile {c : Channel} (h : Tracks c.framer s) (hcut : s.cut = true) :
    c.endOfFile = s.atEnd c.name := by
  obtain ⟨name, timeout, arrivals, block, framer⟩ := c
  cases h with
  | @whole _ held hheld hle =>
    have hlen := hle hcut
    by_cases hnil : s.bytes = []
    · have hempty : held = #[] := by rw [← Array.toList_inj, hheld, hnil]
      simp [Channel.endOfFile, Segment.atEnd, hnil, hempty]
    · have hne : held ≠ #[] := by
        rintro rfl
        exact hnil hheld.symm
      simp [Channel.endOfFile, Segment.atEnd, hnil, hne, hheld, Nat.not_lt.2 hlen]
  | dropping hlong =>
    have hlen : maxLine < s.bytes.length := by
      rcases hlong with h | ⟨-, h⟩ <;> omega
    simp [Channel.endOfFile, Segment.atEnd, hlen]

end Tracks

/-! ## One block

The scan of a block is compared with the marks of its bytes.  If a line is complete in it, only the
marks up to that line are taken and the end of the read is still to come; otherwise the end of the
read is taken as well. -/

namespace Tracks

variable {f : Framer} {s : Segment}

/-- A block with a complete line is taken up to that line. -/
theorem scan_of_line (h : Tracks f s) {n : Nat} {bs line : List UInt8}
    (hline : (f.scan n bs).line = some line) (name : String) :
    ∃ used, bs = used ++ (f.scan n bs).rest ∧ used ≠ [] ∧
      s.replies name (Mark.ofBytes used) = [.line (Utf8.lossyText line)] ∧
      s.afterAll (Mark.ofBytes used) = {} := by
  fun_induction Framer.scan f n bs generalizing s with
  | case1 => cases hline
  | case2 f n bs line' hfin =>
    cases hline
    refine ⟨[Csv.lf], rfl, List.cons_ne_nil _ _, ?_, s.after_lf⟩
    rw [Mark.ofBytes, List.map_singleton, h.replies_lf, hfin]
    rfl
  | case3 f n bs hfin ih | case4 f n bs hfin ih =>
    obtain ⟨used, hbs, -, hreplies, hafter⟩ := ih Tracks.empty hline
    refine ⟨Csv.lf :: used, congrArg _ hbs, List.cons_ne_nil _ _, ?_, ?_⟩
    · exact (h.replies_lf_of_no_line (by simp [hfin]) name _).trans hreplies
    · exact (congrArg (Segment.afterAll · _) s.after_lf).trans hafter
  | case5 f n b bs hb ih =>
    obtain ⟨used, hbs, -, hreplies, hafter⟩ := ih (h.push b) hline
    refine ⟨b :: used, congrArg _ hbs, List.cons_ne_nil _ _, ?_, ?_⟩
    · exact (Segment.replies_push name s hb _).trans hreplies
    · exact (congrArg (Segment.afterAll · _) (s.after_of_ne_lf hb)).trans hafter

/-- A block without a complete line is taken as a whole, and completes nothing. -/
theorem scan_of_no_line (h : Tracks f s) {n : Nat} {bs : List UInt8}
    (hline : (f.scan n bs).line = none) (name : String) :
    Tracks (f.scan n bs).framer (s.afterAll (Mark.ofBytes bs ++ [.readEnd])) ∧
      (s.afterAll (Mark.ofBytes bs ++ [.readEnd])).cut = true ∧
      s.replies name (Mark.ofBytes bs ++ [.readEnd]) = [] := by
  fun_induction Framer.scan f n bs generalizing s with
  | case1 => exact ⟨h.settle, rfl, rfl⟩
  | case2 => cases hline
  | case3 f n bs hfin ih | case4 f n bs hfin ih =>
    have hrest := ih Tracks.empty hline
    rw [← s.after_lf] at hrest
    refine ⟨hrest.1, hrest.2.1, ?_⟩
    rw [Mark.ofBytes_cons_append, h.replies_lf_of_no_line (by simp [hfin]), ← s.after_lf]
    exact hrest.2.2
  | case5 f n b bs hb ih =>
    have hrest := ih (h.push b) hline
    rw [← s.after_of_ne_lf hb] at hrest
    refine ⟨hrest.1, hrest.2.1, ?_⟩
    rw [Mark.ofBytes_cons_append, Segment.replies_push name s hb, ← s.after_of_ne_lf hb]
    exact hrest.2.2

end Tracks

/-! ## One call

When a call has used up a block in which no line was complete, the segment is `cut` and the block is
empty.  The lemmas about the ways in which a call is over are stated for that situation. -/

namespace Channel

/-- The marks of a block and of the arrivals after it. -/
def marksFrom (block : List UInt8) (as : List Arrival) : List Mark :=
  Mark.ofBytes block ++ .readEnd :: as.flatMap Arrival.marks

theorem marksFrom_append (used rest : List UInt8) (as : List Arrival) (more : List Mark) :
    marksFrom (used ++ rest) as ++ more = Mark.ofBytes used ++ (marksFrom rest as ++ more) := by
  simp [marksFrom, Mark.ofBytes]

/-- The marks of what a channel has still to give. -/
def marks (c : Channel) : List Mark := marksFrom c.block c.arrivals

/-- What the first `n` calls return, apart from the idle ones. -/
def heard (c : Channel) (n : Nat) : List Reply := (c.replies n).filter (· ≠ .idle)

/-- A line that is complete in a block is the next reply, and the rest of the block is what comes
after it. -/
theorem replies_of_scan_line {f : Framer} {s : Segment} (h : Tracks f s) {block line : List UInt8}
    (hline : (f.scan 0 block).line = some line) (name : String) (as : List Arrival)
    (more : List Mark) :
    s.replies name (marksFrom block as ++ more) =
      .line (Utf8.lossyText line) ::
        Segment.replies name {} (marksFrom (f.scan 0 block).rest as ++ more) := by
  obtain ⟨used, hblock, -, hreplies, hafter⟩ := h.scan_of_line hline name
  generalize (f.scan 0 block).rest = rest at hblock
  subst hblock
  rw [marksFrom_append, Segment.replies_append, hreplies, hafter]
  rfl

/-- A block in which no line is complete is used up. -/
theorem exists_tracks_block {f : Framer} {s : Segment} (h : Tracks f s) {block : List UInt8}
    (hline : (f.scan 0 block).line = none) (name : String) :
    ∃ s', Tracks (f.scan 0 block).framer s' ∧ s'.cut = true ∧
      ∀ as more, s.replies name (marksFrom block as ++ more) =
        s'.replies name (as.flatMap Arrival.marks ++ more) := by
  obtain ⟨htracks, hcut, hreplies⟩ := h.scan_of_no_line hline name
  refine ⟨_, htracks, hcut, fun as more => ?_⟩
  rw [marksFrom, List.append_cons, List.append_assoc, Segment.replies_append, hreplies]
  rfl

/-- The end of a read that gave nothing more is no news. -/
theorem replies_marksFrom_nil {s : Segment} (h : s.cut = true) (name : String) (as : List Arrival)
    (more : List Mark) :
    s.replies name (marksFrom [] as ++ more) =
      s.replies name (as.flatMap Arrival.marks ++ more) := by
  obtain ⟨bytes, cut⟩ := s
  cases h
  rfl

theorem replies_empty_marksFrom_nil (name : String) (as : List Arrival) (more : List Mark) :
    Segment.replies name {} (marksFrom [] as ++ more) =
      Segment.replies name {} (as.flatMap Arrival.marks ++ more) :=
  Segment.replies_atReadEnd_nil ..

/-- What a call makes of the marks `ms` that are before it: it returns the next reply, unless it is
idle, and leaves the rest of them behind.  After the last of them a stream has ended, and a call
finds that at most once. -/
def Answers (name : String) (s : Segment) (ms : List Mark) (k : Nat) (r : Read) : Prop :=
  ∃ s', Tracks r.channel.framer s' ∧
    [r.reply].filter (· ≠ .idle) ++
        s'.replies name (r.channel.marks ++ List.replicate k .ended) <+:
      s.replies name (ms ++ List.replicate (k + 1) .ended)

/-- Marks that complete nothing may come first. -/
theorem Answers.of_replies_eq {name : String} {s s' : Segment} {ms ms' : List Mark} {k : Nat}
    {r : Read} (h : Answers name s' ms' k r)
    (heq : ∀ more, s.replies name (ms ++ more) = s'.replies name (ms' ++ more)) :
    Answers name s ms k r := by
  rw [Answers, heq]
  exact h

/-- A line that is complete in the block is the reply. -/
theorem answers_line {c : Channel} {s : Segment} (h : Tracks c.framer s) {line : List UInt8}
    (hline : (c.framer.scan 0 c.block).line = some line) (as : List Arrival) (k elapsed : Nat)
    (events : List Event) :
    Answers c.name s (marksFrom c.block as) k
      ⟨.line (Utf8.lossyText line), { c.after (c.framer.scan 0 c.block) with arrivals := as },
        elapsed, events⟩ := by
  refine ⟨{}, ?_, ?_⟩
  · show Tracks (c.framer.scan 0 c.block).framer {}
    rw [Framer.scan_framer_of_line hline]
    exact Tracks.empty
  · rw [replies_of_scan_line h hline]
    exact List.cons_prefix_cons.2 ⟨rfl, Segment.replies_prefix_ended ..⟩

section UsedUp

variable {c : Channel} {s : Segment} (h : Tracks c.framer s) (hcut : s.cut = true)
  (hblock : c.block = [])

include h hcut hblock

/-- An end of file makes the unfinished line a reply. -/
theorem answers_endOfFile (as : List Arrival) (k elapsed : Nat) (events : List Event) :
    Answers c.name s (.ended :: as.flatMap Arrival.marks) k
      ⟨c.endOfFile, { c with arrivals := as, framer := {} }, elapsed, events⟩ := by
  refine ⟨{}, Tracks.empty, ?_⟩
  rw [List.cons_append, h.endOfFile hcut, Segment.filter_atEnd]
  refine List.cons_prefix_cons.2 ⟨rfl, ?_⟩
  show Segment.replies c.name {} (marksFrom c.block as ++ _) <+: _
  rw [hblock, replies_empty_marksFrom_nil]
  exact Segment.replies_prefix_ended ..

/-- So does the end of the stream. -/
theorem answers_end (k elapsed : Nat) (events : List Event) :
    Answers c.name s [] k
      ⟨c.endOfFile, { c with arrivals := [], framer := {} }, elapsed, events⟩ := by
  refine ⟨{}, Tracks.empty, ?_⟩
  rw [List.nil_append, List.replicate_succ, h.endOfFile hcut, Segment.filter_atEnd]
  refine List.cons_prefix_cons.2 ⟨rfl, ?_⟩
  show Segment.replies c.name {} (marksFrom c.block [] ++ _) <+: _
  rw [hblock, replies_empty_marksFrom_nil]
  exact List.prefix_refl _

/-- A failure is a reply, and the unfinished line stays. -/
theorem answers_failure (detail : String) (as : List Arrival) (k elapsed : Nat)
    (events : List Event) :
    Answers c.name s (.failure detail :: as.flatMap Arrival.marks) k
      ⟨.failed (.serial (.cannotRead c.name detail)), { c with arrivals := as }, elapsed,
        events⟩ := by
  refine ⟨s, h, List.cons_prefix_cons.2 ⟨rfl, ?_⟩⟩
  show s.replies c.name (marksFrom c.block as ++ _) <+: _
  rw [hblock, replies_marksFrom_nil hcut]
  exact Segment.replies_prefix_ended ..

/-- An idle call replies nothing, and leaves the rest of its silence behind. -/
theorem answers_silence (ms : Nat) (as : List Arrival) (k elapsed : Nat) (events : List Event) :
    Answers c.name s (as.flatMap Arrival.marks) k
      ⟨.idle, { c with arrivals := .silence ms :: as }, elapsed, events⟩ := by
  refine ⟨s, h, ?_⟩
  show s.replies c.name (marksFrom c.block (.silence ms :: as) ++ _) <+: _
  rw [hblock, replies_marksFrom_nil hcut]
  exact Segment.replies_prefix_ended ..

end UsedUp

/-- Where no line is complete in the block, it is what comes after the block that is answered. -/
theorem answers_of_no_line {c : Channel} {s : Segment} (h : Tracks c.framer s)
    (hline : (c.framer.scan 0 c.block).line = none) {as : List Arrival} {k : Nat} {r : Read}
    (hafter : ∀ s', Tracks (c.framer.scan 0 c.block).framer s' → s'.cut = true →
      Answers c.name s' (as.flatMap Arrival.marks) k r) :
    Answers c.name s (marksFrom c.block as) k r := by
  obtain ⟨s', hs', hcut, heq⟩ := exists_tracks_block h hline c.name
  exact (hafter s' hs' hcut).of_replies_eq (heq as)

/-- **A call returns the next reply of its stream.** -/
theorem readFrom_answers (k : Nat) (c : Channel) (p : Patience) (events : List Event)
    (as : List Arrival) :
    p.stop = none → ∀ s, Tracks c.framer s →
      Answers c.name s (marksFrom c.block as) k (readFrom c p events as) := by
  fun_induction readFrom c p events as with
  | case1 as c p events sc ev c' bytes hline => exact fun _ s hs => answers_line hs hline as k _ _
  | case2 c p events sc ev c' hline =>
    intro _ s hs
    refine answers_of_no_line hs hline fun s' hs' hcut => ?_
    exact answers_end (c := c') hs' hcut (Framer.scan_rest_eq_nil hline) k _ _
  | case3 c p events sc ev c' hline more =>
    intro _ s hs
    refine answers_of_no_line hs hline fun s' hs' hcut => ?_
    exact answers_endOfFile (c := c') hs' hcut (Framer.scan_rest_eq_nil hline) more k _ _
  | case4 c p events sc ev c' hline detail more =>
    intro _ s hs
    refine answers_of_no_line hs hline fun s' hs' hcut => ?_
    exact answers_failure (c := c') hs' hcut (Framer.scan_rest_eq_nil hline) detail more k _ _
  | case5 c p events sc ev c' hline bs more ih =>
    intro hp s hs
    refine answers_of_no_line hs hline fun s' hs' _ => (ih hp s' hs').of_replies_eq fun rest => ?_
    rw [List.flatMap_cons, Arrival.marks, List.append_assoc (Mark.ofBytes bs)]
    rfl
  | case6 c p events sc ev c' hline ms more q hw ih =>
    intro hp s hs
    obtain ⟨rfl, -, -⟩ := Patience.of_wait_through hw
    refine answers_of_no_line hs hline fun s' hs' hcut => ?_
    refine (ih (by rw [Patience.less, hp]; rfl) s' hs').of_replies_eq fun rest => ?_
    -- the rest of the call begins with the end of a read, which is no news
    rw [show c'.block = [] from Framer.scan_rest_eq_nil hline, replies_marksFrom_nil hcut]
    rfl
  | case7 c p events sc ev c' hline ms more hw =>
    intro _ s hs
    refine answers_of_no_line hs hline fun s' hs' hcut => ?_
    exact answers_silence (c := c') hs' hcut (Framer.scan_rest_eq_nil hline) _ more k _ _
  | case8 c p events sc ev c' hline ms more moment hw =>
    intro hp
    exact absurd (Patience.of_wait_stopped hw).1 (by simp [hp])

theorem read_answers (k : Nat) {c : Channel} {s : Segment} (h : Tracks c.framer s) :
    Answers c.name s c.marks k c.read :=
  readFrom_answers k c ⟨c.timeout, none, 0⟩ [] c.arrivals rfl s h

/-! ## Many calls

Calls return replies one by one and silences in between, and the replies are the first ones of the
stream.  How many calls it takes depends on the silences, so nothing is said here of their number
but that enough calls return all of it. -/

/-- The first calls return the first replies of the stream, and leave the rest of it behind. -/
theorem heard_append_prefix (n k : Nat) {c : Channel} {s : Segment} (h : Tracks c.framer s) :
    ∃ s', Tracks (c.later n).framer s' ∧
      c.heard n ++ s'.replies c.name ((c.later n).marks ++ List.replicate k .ended) <+:
        s.replies c.name (c.marks ++ List.replicate (n + k) .ended) := by
  induction n generalizing c s with
  | zero => exact ⟨s, h, by rw [Nat.zero_add]; exact List.prefix_refl _⟩
  | succ n ih =>
    obtain ⟨s₁, h₁, hfirst⟩ := read_answers (n + k) h
    obtain ⟨s₂, h₂, hrest⟩ := ih h₁
    rw [read_name] at hrest
    refine ⟨s₂, h₂, ?_⟩
    rw [heard, replies, ← List.singleton_append, List.filter_append, List.append_assoc,
      show n + 1 + k = n + k + 1 by omega]
    exact ((List.prefix_append_right_inj _).2 hrest).trans hfirst

/-- Every call is idle or heard. -/
theorem count_idle_add_length_heard (c : Channel) (n : Nat) :
    (c.replies n).count .idle + (c.heard n).length = n := by
  have h := List.length_eq_countP_add_countP (· == Reply.idle) (l := c.replies n)
  rw [c.length_replies n] at h
  rw [List.count, heard, ← List.countP_eq_length_filter]
  simpa using h.symm

end Channel

open Channel (ofScript)

theorem replies_marks_ofScript (name : String) (timeout : Nat) (script : List Signal)
    (more : List Mark) :
    Segment.replies name {} ((ofScript name timeout script).marks ++ more) =
      Segment.replies name {} (Signal.marks script ++ more) :=
  Channel.replies_empty_marksFrom_nil ..

/-- The replies that are heard come in the order of the script. -/
theorem heard_prefix_replies (name : String) (timeout : Nat) (script : List Signal) (n : Nat) :
    (ofScript name timeout script).heard n <+:
      Segment.replies name {} (Signal.marks script ++ List.replicate n .ended) := by
  have hempty : Tracks (ofScript name timeout script).framer {} := Tracks.empty
  obtain ⟨s, -, hpre⟩ := Channel.heard_append_prefix n 0 hempty
  rw [← replies_marks_ofScript name timeout]
  exact (List.prefix_append _ _).trans hpre

/-- Calls are idle no oftener than the silences of the script allow. -/
theorem le_length_heard_add_quietTime (name : String) {timeout : Nat} (ht : 1 ≤ timeout)
    (script : List Signal) (n : Nat) :
    n ≤ ((ofScript name timeout script).heard n).length + (script.map Signal.quietTime).sum := by
  have hcount := (ofScript name timeout script).count_idle_add_length_heard n
  have hidle := (ofScript name timeout script).timeout_mul_idle_le n
  have hclock := (ofScript name timeout script).clock_add_quietTime n
  rw [Channel.quietTime_ofScript] at hclock
  have hle := Nat.le_mul_of_pos_left (((ofScript name timeout script).replies n).count .idle) ht
  have htimeout : (ofScript name timeout script).timeout = timeout := rfl
  rw [htimeout] at hidle
  omega

/-- **Framing is exact.**  Apart from the idle ones, the replies of a channel are those that its
script amounts to, one after the other; after the script, the stream has ended for good.  Only a
silence makes a call idle, so there are as many other replies as one likes. -/
theorem heard_ofScript_prefix (name : String) {timeout : Nat} (ht : 1 ≤ timeout)
    (script : List Signal) (n : Nat) :
    (ofScript name timeout script).heard n <+:
        Segment.replies name {} (Signal.marks script ++ List.replicate n .ended) ∧
      n ≤ ((ofScript name timeout script).heard n).length + (script.map Signal.quietTime).sum :=
  ⟨heard_prefix_replies name timeout script n, le_length_heard_add_quietTime name ht script n⟩

/-- A silence inside a line, a failure inside a character, and a line between two ends of the
file. -/
theorem heard_ofScript_prefix_of_mixed_script :
    1 ≤ 50 ∧
      (ofScript "mock" 50
          [.chunk 0x61 [0x62, 0x0D], .silence 120, .chunk 0x0A [0x63, 0xE2], .failure "noise",
            .chunk 0x82 [0xAC], .ended, .chunk 0x0A []]).heard 9 <+:
        [.line "ab", .failed (.serial (.cannotRead "mock" "noise")), .line "c\u20ac", .line ""] ++
          List.replicate 9 (.failed (.disconnected "mock")) := by
  have ht : 1 ≤ 50 := by decide
  have hheard := heard_ofScript_prefix "mock" ht
    [.chunk 0x61 [0x62, 0x0D], .silence 120, .chunk 0x0A [0x63, 0xE2], .failure "noise",
      .chunk 0x82 [0xAC], .ended, .chunk 0x0A []] 9
  refine ⟨ht, hheard.1.trans ?_⟩
  decide +kernel

end Device
end TelemetryLog
