import Mathlib.Data.List.DropRight
import TelemetryLog.Proofs.Device.Framing

/-!
# How the bytes of a stream come

The same bytes can come in many ways: in long chunks or one at a time, with silences in between, to
a patient channel or to an impatient one.  The lines that a channel delivers should be those of the
bytes (`keptLines`), and they are, with one exception: a line of just the greatest length that ends
in CR LF is dropped if a read ends between the two (`SplitsFullLine`).  The check at the end of a
read takes the carriage return for a byte of the line.

`same_lines_iff_not_split` says this of two scripts that send the same bytes.  Each of them delivers
the lines of the bytes just if none of its reads splits such a line, and two of which at most one
does deliver the same lines just if none does.  The exception is the only one, and it always costs a
line; `full_line_lost_when_split` is a script where it comes up.

## How the proof goes

* `keptLines` looks at the bytes alone: cut at line feeds, without the carriage return in front of
  one, and without what is too long.
* `lineTexts` are the lines that a stream of marks amounts to, as texts; by `Proofs.Device.Framing`
  they are what a channel delivers.
* `lineTexts_of_splits` compares the two along the marks.  If nothing is split they are the same
  list, and otherwise there are fewer lines in the first.  So no argument is needed about which line
  was lost: the numbers of lines differ.
* `splits` speaks of marks, and `SplitsFullLine` of the list of reads, which is what a reader of the
  statement can check.  `splits_marks_iff` leads from one to the other.

`Delivers` says what is delivered in the end: from some number of calls on, always these lines.  It
does not matter how many calls are idle, so scripts with different silences and channels with
different timeouts can be compared.

Failures may come anywhere, since they leave the lines alone.  An end of file in the middle makes a
line of what there is, so the bytes alone would not determine the lines any more, and scripts with
one are not compared here; `Proofs.Device.Framing` covers them.
-/

set_option autoImplicit false

namespace TelemetryLog
namespace Device

open Channel (Reply ofScript)

/-! ## The lines of some bytes

The bytes are cut at every line feed.  What is left at the end is a line as well if there is
anything, since the end of the stream comes after it, and it keeps a carriage return. -/

/-- The bytes after the last line feed. -/
def unfinished (bs : List UInt8) : List UInt8 := bs.rtakeWhile (· ≠ Csv.lf)

/-- The lines of some bytes that are not too long: those that a line feed ends, without CR LF or LF,
and whatever is left at the end. -/
def keptLines (bs : List UInt8) : List (List UInt8) :=
  ((bs.splitOn Csv.lf).dropLast.map Segment.content).filter (·.length ≤ maxLine) ++
    [unfinished bs].filter fun line => line ≠ [] ∧ line.length ≤ maxLine

theorem unfinished_concat (bs : List UInt8) (b : UInt8) :
    unfinished (bs ++ [b]) = if b = Csv.lf then [] else unfinished bs ++ [b] := by
  rw [unfinished, List.rtakeWhile_concat]
  by_cases hb : b = Csv.lf <;> simp [hb, unfinished]

theorem unfinished_of_not_mem {bs : List UInt8} (h : Csv.lf ∉ bs) : unfinished bs = bs :=
  List.rtakeWhile_eq_self_iff.2 fun b hb => by
    have hne : b ≠ Csv.lf := ne_of_mem_of_not_mem hb h
    simpa using hne

/-- A line feed forgets everything before it. -/
theorem unfinished_append_lf (front back : List UInt8) :
    unfinished (front ++ Csv.lf :: back) = unfinished back := by
  induction back using List.reverseRecOn with
  | nil => rw [unfinished_concat, if_pos rfl]; rfl
  | append_singleton back b ih =>
    rw [← List.cons_append, ← List.append_assoc, unfinished_concat, unfinished_concat, ih]

theorem keptLines_of_not_mem {bs : List UInt8} (h : Csv.lf ∉ bs) :
    keptLines bs = [bs].filter fun line => line ≠ [] ∧ line.length ≤ maxLine := by
  rw [keptLines, List.splitOn_eq_singleton h, unfinished_of_not_mem h]
  rfl

theorem keptLines_append_lf {line : List UInt8} (h : Csv.lf ∉ line) (bs : List UInt8) :
    keptLines (line ++ Csv.lf :: bs) =
      [Segment.content line].filter (·.length ≤ maxLine) ++ keptLines bs := by
  rw [keptLines, keptLines, unfinished_append_lf, List.splitOn_append_cons_self_of_not_mem h,
    List.dropLast_cons_of_ne_nil (List.splitOn_ne_nil _ _), List.map_cons, ← List.append_assoc,
    ← List.filter_append]
  rfl

/-! ## Reads

A read gives a block of a chunk, so a script gives its reads as a list of byte lists, which put
together are the bytes that it sends. -/

namespace Arrival

/-- The bytes of a read, if it gives any. -/
def block? : Arrival → Option (List UInt8)
  | .block bs => some bs
  | _ => none

theorem flatten_blocks (bs : List UInt8) : ((blocks bs).filterMap block?).flatten = bs := by
  fun_induction blocks bs with
  | case1 bs h => simpa using h.symm
  | case2 bs h ih => simp [block?, ih, List.take_append_drop]

/-- A short chunk is one read. -/
theorem filterMap_blocks {bs : List UInt8} (hne : bs ≠ []) (hlen : bs.length ≤ blockSize) :
    (blocks bs).filterMap block? = [bs] := by
  rw [blocks_of_ne_nil hne, List.take_of_length_le hlen, List.drop_eq_nil_of_le hlen, blocks_nil]
  rfl

/-- A read of a chunk without line feeds does not begin with one. -/
theorem head?_ne_lf {bs : List UInt8} (h : Csv.lf ∉ bs) {r : List UInt8}
    (hr : r ∈ (blocks bs).filterMap block?) : r.head? ≠ some Csv.lf := by
  intro hhead
  refine h ?_
  rw [← flatten_blocks bs]
  exact List.mem_flatten.2 ⟨r, hr, List.mem_of_mem_head? hhead⟩

end Arrival

namespace Signal

/-- The bytes that a script sends. -/
def bytes (script : List Signal) : List UInt8 :=
  script.flatMap fun
    | .chunk first more => first :: more
    | _ => []

/-- What each read of a script gives. -/
def reads (script : List Signal) : List (List UInt8) :=
  (script.flatMap arrivals).filterMap Arrival.block?

theorem reads_chunk (first : UInt8) (more : List UInt8) (script : List Signal) :
    reads (.chunk first more :: script) =
      (Arrival.blocks (first :: more)).filterMap Arrival.block? ++ reads script := by
  rw [reads, List.flatMap_cons, List.filterMap_append]
  rfl

theorem flatten_reads (script : List Signal) : (reads script).flatten = bytes script := by
  induction script with
  | nil => rfl
  | cons s script ih =>
    cases s with
    | chunk first more =>
      rw [reads_chunk, List.flatten_append, Arrival.flatten_blocks, ih]
      rfl
    | silence ms => exact ih
    | failure detail => exact ih
    | ended => exact ih

end Signal

/-- The bytes among some marks. -/
def Mark.bytes (ms : List Mark) : List UInt8 :=
  ms.filterMap fun
    | .byte b => some b
    | _ => none

theorem Mark.bytes_ofBytes_append (bs : List UInt8) (ms : List Mark) :
    Mark.bytes (Mark.ofBytes bs ++ ms) = bs ++ Mark.bytes ms := by
  induction bs with
  | nil => rfl
  | cons b bs ih => exact congrArg (b :: ·) ih

/-! ## Lines that are lost

`splits` goes along the marks and asks at each line feed whether the segment before it was a full
line whose read ended behind the carriage return. -/

/-- The text of a line. -/
def Channel.Reply.text? : Reply → Option String
  | .line text => some text
  | _ => none

namespace Segment

/-- The lines that a stream amounts to up to an end of file after it, as texts. -/
def lineTexts (name : String) (s : Segment) (ms : List Mark) : List String :=
  (s.replies name (ms ++ [.ended])).filterMap Reply.text?

/-- Does a read end between the carriage return and the line feed of a line of just the greatest
length? -/
def splits (s : Segment) : List Mark → Bool
  | [] => false
  | .byte b :: ms => if b = Csv.lf then s.splitsFull || splits {} ms else splits (s.push b) ms
  | .readEnd :: ms => splits s.atReadEnd ms
  | .failure _ :: ms => splits s ms
  | .ended :: ms => splits {} ms

theorem splitsFull_eq_false {s : Segment} (h : s.cut = false) : s.splitsFull = false := by
  rw [splitsFull, h]
  rfl

/-- A line is lost only when it is split. -/
theorem toList_line? (s : Segment) :
    s.line?.toList =
      if s.splitsFull then [] else [content s.bytes].filter (·.length ≤ maxLine) := by
  rw [line?]
  by_cases hs : s.splitsFull = true
  · simp [hs]
  · by_cases hlen : maxLine < (content s.bytes).length
    · simp [hs, hlen]
    · simp [hs, hlen, Nat.le_of_not_lt hlen]

theorem length_content_of_splitsFull {s : Segment} (h : s.splitsFull = true) :
    (content s.bytes).length = maxLine := by
  simp only [splitsFull, Bool.and_eq_true, beq_iff_eq] at h
  exact h.1.2

theorem lineTexts_nil (name : String) (s : Segment) :
    lineTexts name s [] =
      ([s.bytes].filter fun line => line ≠ [] ∧ line.length ≤ maxLine).map Utf8.lossyText := by
  show [s.atEnd name].filterMap Reply.text? = _
  rw [atEnd]
  by_cases hnil : s.bytes = []
  · simp [hnil, Reply.text?]
  · by_cases hlen : maxLine < s.bytes.length
    · simp [hnil, hlen, Reply.text?]
    · simp [hnil, hlen, Nat.le_of_not_lt hlen, Reply.text?]

theorem lineTexts_lf (name : String) (s : Segment) (ms : List Mark) :
    lineTexts name s (.byte Csv.lf :: ms) =
      s.line?.toList.map Utf8.lossyText ++ lineTexts name {} ms := by
  rw [lineTexts, lineTexts, List.cons_append, replies_lf, List.filterMap_append]
  congr 1
  cases s.line? <;> rfl

theorem lineTexts_push (name : String) (s : Segment) {b : UInt8} (hb : b ≠ Csv.lf)
    (ms : List Mark) : lineTexts name s (.byte b :: ms) = lineTexts name (s.push b) ms := by
  rw [lineTexts, lineTexts, List.cons_append, replies_push name s hb]

/-- **The lines of a stream are those of its bytes**, unless one is split, and then there are
fewer. -/
theorem lineTexts_of_splits (name : String) (s : Segment) (ms : List Mark)
    (hs : Csv.lf ∉ s.bytes) (hms : .ended ∉ ms) :
    if s.splits ms then
      (lineTexts name s ms).length < (keptLines (s.bytes ++ Mark.bytes ms)).length
    else lineTexts name s ms = (keptLines (s.bytes ++ Mark.bytes ms)).map Utf8.lossyText := by
  induction ms generalizing s with
  | nil =>
    rw [splits, if_neg Bool.false_ne_true, lineTexts_nil, Mark.bytes, List.filterMap_nil,
      List.append_nil, keptLines_of_not_mem hs]
  | cons m ms ih =>
    have hrest : .ended ∉ ms := fun h => hms (List.mem_cons_of_mem _ h)
    cases m with
    | byte b =>
      by_cases hb : b = Csv.lf
      · subst hb
        have h := ih {} List.not_mem_nil hrest
        rw [show Mark.bytes (.byte Csv.lf :: ms) = Csv.lf :: Mark.bytes ms from rfl,
          keptLines_append_lf hs, lineTexts_lf, toList_line?, splits, if_pos rfl]
        rw [List.nil_append] at h
        by_cases hfull : s.splitsFull = true
        · -- the line is lost, so whatever comes after it cannot make up for it
          have hlen := length_content_of_splitsFull hfull
          have hle : (lineTexts name {} ms).length ≤ (keptLines (Mark.bytes ms)).length := by
            split at h
            · exact Nat.le_of_lt h
            · rw [h, List.length_map]
          simp [hfull, hlen]
          omega
        · simp only [hfull, Bool.false_or, Bool.false_eq_true, if_false]
          split at h
          · rename_i hsplits
            rw [if_pos hsplits, List.length_append, List.length_append, List.length_map]
            omega
          · rename_i hsplits
            rw [if_neg hsplits, h, List.map_append]
      · have h := ih (s.push b) (by simpa [push, hs] using fun h => hb h.symm) hrest
        rw [splits, if_neg hb, lineTexts_push name s hb]
        rw [push, List.append_assoc] at h
        exact h
    | readEnd => exact ih s.atReadEnd hs hrest
    | failure detail => exact ih s hs hrest
    | ended => exact absurd List.mem_cons_self hms

end Segment

/-! ## Where reads end

Here the same question is asked of the list of reads: does one of them begin with a line feed, after
bytes whose unfinished line is a line of just the greatest length and a carriage return? -/

/-- After these bytes, does a read begin with the line feed of a line of just the greatest length
whose carriage return has come before? -/
def SplitsAfter (done : List UInt8) (reads : List (List UInt8)) : Prop :=
  ∃ before next after line, reads = before ++ next :: after ∧ next.head? = some Csv.lf ∧
    unfinished (done ++ before.flatten) = line ++ [Csv.cr] ∧ line.length = maxLine

/-- Does a read end between the carriage return and the line feed of a line of just the greatest
length? -/
def SplitsFullLine (reads : List (List UInt8)) : Prop := SplitsAfter [] reads

theorem not_splitsAfter_nil (done : List UInt8) : ¬SplitsAfter done [] := by
  rintro ⟨before, next, after, line, h, -⟩
  simp at h

theorem splitsAfter_cons (done r : List UInt8) (rs : List (List UInt8)) :
    SplitsAfter done (r :: rs) ↔
      (r.head? = some Csv.lf ∧ ∃ line, unfinished done = line ++ [Csv.cr] ∧
        line.length = maxLine) ∨ SplitsAfter (done ++ r) rs := by
  constructor
  · rintro ⟨before, next, after, line, h, hnext, hline, hlen⟩
    cases before with
    | nil =>
      obtain ⟨rfl, rfl⟩ := List.cons.inj h
      rw [List.flatten_nil, List.append_nil] at hline
      exact .inl ⟨hnext, line, hline, hlen⟩
    | cons r' before =>
      obtain ⟨rfl, rfl⟩ := List.cons.inj h
      rw [List.flatten_cons, ← List.append_assoc] at hline
      exact .inr ⟨before, next, after, line, rfl, hnext, hline, hlen⟩
  · rintro (⟨hnext, line, hline, hlen⟩ | ⟨before, next, after, line, rfl, hnext, hline, hlen⟩)
    · refine ⟨[], r, rs, line, rfl, hnext, ?_, hlen⟩
      rw [List.flatten_nil, List.append_nil, hline]
    · refine ⟨r :: before, next, after, line, rfl, hnext, ?_, hlen⟩
      rw [List.flatten_cons, ← List.append_assoc, hline]

namespace Segment

theorem splitsFull_iff (bs : List UInt8) :
    splitsFull ⟨bs, true⟩ = true ↔ ∃ line, bs = line ++ [Csv.cr] ∧ line.length = maxLine := by
  constructor
  · intro h
    simp only [splitsFull, Bool.and_eq_true, beq_iff_eq, true_and] at h
    obtain ⟨hcontent, hlen⟩ := h
    rw [content] at hcontent
    split at hcontent
    · rename_i hlast
      exact ⟨bs.dropLast, (List.dropLast_append_getLast? Csv.cr hlast).symm, hcontent⟩
    · omega
  · rintro ⟨line, rfl, hlen⟩
    simp [splitsFull, content, hlen]

/-- Where a read ends does not matter before the first byte of a segment. -/
theorem splits_atReadEnd_nil (ms : List Mark) : splits (atReadEnd {}) ms = splits {} ms := by
  induction ms with
  | nil => rfl
  | cons m ms ih =>
    cases m with
    | byte b => rfl
    | readEnd => rfl
    | failure detail => exact ih
    | ended => rfl

theorem splits_byte (done : List UInt8) (cut : Bool) (b : UInt8) (ms : List Mark) :
    splits ⟨unfinished done, cut⟩ (.byte b :: ms) =
      (decide (b = Csv.lf) && splitsFull ⟨unfinished done, cut⟩ ||
        splits ⟨unfinished (done ++ [b]), false⟩ ms) := by
  rw [splits, unfinished_concat]
  by_cases hb : b = Csv.lf
  · simp [hb]
  · simp [hb, push]

/-- Inside a read nothing is split. -/
theorem splits_ofBytes_append (done bs : List UInt8) (ms : List Mark) :
    splits ⟨unfinished done, false⟩ (Mark.ofBytes bs ++ ms) =
      splits ⟨unfinished (done ++ bs), false⟩ ms := by
  induction bs generalizing done with
  | nil => rw [List.append_nil]; rfl
  | cons b bs ih =>
    rw [Mark.ofBytes_cons_append, splits_byte, splitsFull_eq_false rfl, Bool.and_false,
      Bool.false_or, ih, List.append_assoc, List.singleton_append]

theorem splits_block (done bs : List UInt8) (ms : List Mark) :
    splits ⟨unfinished done, true⟩ (Mark.ofBytes bs ++ .readEnd :: ms) =
      (decide (bs.head? = some Csv.lf) && splitsFull ⟨unfinished done, true⟩ ||
        splits ⟨unfinished (done ++ bs), true⟩ ms) := by
  cases bs with
  | nil =>
    rw [List.append_nil]
    rfl
  | cons b bs =>
    rw [Mark.ofBytes_cons_append, splits_byte, splits_ofBytes_append, List.append_assoc,
      List.singleton_append, splits, atReadEnd]
    simp

/-- The marks of some arrivals tell what their reads tell. -/
theorem splits_marks_iff (done : List UInt8) (as : List Arrival) (has : .ended ∉ as) :
    splits ⟨unfinished done, true⟩ (as.flatMap Arrival.marks) = true ↔
      SplitsAfter done (as.filterMap Arrival.block?) := by
  induction as generalizing done with
  | nil => exact iff_of_false Bool.false_ne_true (not_splitsAfter_nil done)
  | cons a as ih =>
    have hrest : .ended ∉ as := fun h => has (List.mem_cons_of_mem _ h)
    cases a with
    | block bs =>
      rw [List.flatMap_cons, Arrival.marks, List.append_assoc, List.singleton_append, splits_block,
        show (Arrival.block bs :: as).filterMap Arrival.block? =
          bs :: as.filterMap Arrival.block? from rfl,
        splitsAfter_cons, ← ih (done ++ bs) hrest, ← splitsFull_iff]
      simp
    | silence ms => exact ih done hrest
    | failure detail => exact ih done hrest
    | ended => exact absurd List.mem_cons_self has

end Segment

namespace Arrival

theorem ended_not_mem_blocks (bs : List UInt8) : .ended ∉ blocks bs := by
  fun_induction blocks bs with
  | case1 => exact List.not_mem_nil
  | case2 bs h ih => simpa using ih

theorem ended_not_mem_marks {as : List Arrival} (h : .ended ∉ as) :
    .ended ∉ as.flatMap Arrival.marks := by
  intro hmem
  obtain ⟨a, ha, hm⟩ := List.mem_flatMap.1 hmem
  cases a with
  | block bs => simp [marks, Mark.ofBytes] at hm
  | silence ms => exact List.not_mem_nil hm
  | failure detail => simp [marks] at hm
  | ended => exact h ha

theorem bytes_marks (as : List Arrival) :
    Mark.bytes (as.flatMap Arrival.marks) = (as.filterMap block?).flatten := by
  induction as with
  | nil => rfl
  | cons a as ih =>
    cases a with
    | block bs =>
      rw [List.flatMap_cons, marks, List.append_assoc, Mark.bytes_ofBytes_append,
        show (block bs :: as).filterMap block? = bs :: as.filterMap block? from rfl,
        List.flatten_cons, ← ih]
      rfl
    | silence ms => exact ih
    | failure detail => exact ih
    | ended => exact ih

end Arrival

namespace Signal

theorem ended_not_mem_arrivals {script : List Signal} (h : .ended ∉ script) :
    .ended ∉ script.flatMap arrivals := by
  intro hmem
  obtain ⟨s, hs, ha⟩ := List.mem_flatMap.1 hmem
  cases s with
  | chunk first more => exact Arrival.ended_not_mem_blocks (first :: more) ha
  | silence ms => simp [arrivals] at ha
  | failure detail => simp [arrivals] at ha
  | ended => exact h hs

/-- The lines of a script are those of its bytes if it splits none, and fewer if it does. -/
theorem lineTexts_marks (name : String) {script : List Signal} (h : .ended ∉ script) :
    (SplitsFullLine (reads script) →
      (Segment.lineTexts name {} (marks script)).length < (keptLines (bytes script)).length) ∧
    (¬SplitsFullLine (reads script) →
      Segment.lineTexts name {} (marks script) =
        (keptLines (bytes script)).map Utf8.lossyText) := by
  have has := ended_not_mem_arrivals h
  have hiff : Segment.splits {} (marks script) = true ↔ SplitsFullLine (reads script) := by
    rw [← Segment.splits_atReadEnd_nil]
    exact Segment.splits_marks_iff [] _ has
  have htexts :=
    Segment.lineTexts_of_splits name {} (marks script) List.not_mem_nil
      (Arrival.ended_not_mem_marks has)
  rw [List.nil_append, show Mark.bytes (marks script) = (reads script).flatten from
    Arrival.bytes_marks _, flatten_reads] at htexts
  constructor
  · intro hsplits
    rwa [if_pos (hiff.2 hsplits)] at htexts
  · intro hsplits
    rwa [if_neg (fun h => hsplits (hiff.1 h))] at htexts

end Signal

/-! ## What a channel delivers

The comparison of marks is carried over to the calls of a channel, for any timeout of at least one
millisecond. -/

namespace Segment

/-- After the end of a file there are no more lines. -/
theorem filterMap_replies_ended (name : String) (s : Segment) (ms : List Mark) (k : Nat) :
    (s.replies name (ms ++ List.replicate (k + 1) .ended)).filterMap Reply.text? =
      lineTexts name s ms := by
  -- the ends of file that follow the first one find nothing left
  have hmore : ∀ k, (replies name {} (List.replicate k .ended)).filterMap Reply.text? = [] := by
    intro k
    induction k with
    | zero => rfl
    | succ k ih => exact ih
  induction ms generalizing s with
  | nil =>
    rw [lineTexts, List.nil_append, List.nil_append, List.replicate_succ, replies, replies,
      List.filterMap_cons, List.filterMap_cons, hmore]
    rfl
  | cons m ms ih =>
    cases m with
    | byte b =>
      by_cases hb : b = Csv.lf
      · subst hb
        rw [lineTexts_lf, ← ih, List.cons_append, replies_lf, List.filterMap_append]
        congr 1
        cases s.line? <;> rfl
      · rw [lineTexts_push name s hb, ← ih, List.cons_append, replies_push name s hb]
    | readEnd => exact ih s.atReadEnd
    | failure detail => exact ih s
    | ended =>
      have hrest := ih {}
      rw [lineTexts] at hrest ⊢
      rw [List.cons_append, List.cons_append, replies, replies, List.filterMap_cons,
        List.filterMap_cons, hrest]

end Segment

namespace Channel

/-- The lines among what the first `n` calls return. -/
def lines (c : Channel) (n : Nat) : List String := (c.replies n).filterMap Reply.text?

/-- Called often enough, the channel delivers these lines and no others. -/
def Delivers (c : Channel) (texts : List String) : Prop := ∃ n₀, ∀ n, n₀ ≤ n → c.lines n = texts

theorem Delivers.unique {c : Channel} {xs ys : List String} (hx : c.Delivers xs)
    (hy : c.Delivers ys) : xs = ys := by
  obtain ⟨m, hm⟩ := hx
  obtain ⟨n, hn⟩ := hy
  rw [← hm (max m n) (Nat.le_max_left m n), ← hn (max m n) (Nat.le_max_right m n)]

theorem filterMap_heard (c : Channel) (n : Nat) :
    (c.heard n).filterMap Reply.text? = c.lines n := by
  rw [heard, lines, List.filterMap_filter]
  refine List.filterMap_congr fun r _ => ?_
  cases r <;> rfl

end Channel

/-- A channel delivers the lines that its script amounts to. -/
theorem delivers_ofScript (name : String) {timeout : Nat} (ht : 1 ≤ timeout)
    (script : List Signal) :
    (ofScript name timeout script).Delivers (Segment.lineTexts name {} (Signal.marks script)) := by
  obtain ⟨first, hfirst⟩ : ∃ first, first = Segment.replies name {}
    (Signal.marks script ++ [.ended]) := ⟨_, rfl⟩
  refine ⟨first.length + (script.map Signal.quietTime).sum + 1, fun n hn => ?_⟩
  obtain ⟨k, rfl⟩ : ∃ k, n = k + 1 := ⟨n - 1, by omega⟩
  have hlen := le_length_heard_add_quietTime name ht script (k + 1)
  have hheard := heard_prefix_replies name timeout script (k + 1)
  have hall : first <+: Segment.replies name {}
      (Signal.marks script ++ List.replicate (k + 1) .ended) := by
    rw [hfirst, List.replicate_succ, List.append_cons _ _ (List.replicate k _)]
    exact Segment.replies_prefix_append ..
  -- the replies up to the first end of the file have been heard, and no line comes after them
  have hbelow := (List.prefix_of_prefix_length_le hall hheard (by omega)).filterMap Reply.text?
  have habove := hheard.filterMap Reply.text?
  rw [Segment.filterMap_replies_ended] at habove
  rw [hfirst] at hbelow
  rw [← Channel.filterMap_heard]
  exact habove.sublist.antisymm hbelow.sublist

/-- The lines of some bytes that are not too long, as texts. -/
def keptTexts (bs : List UInt8) : List String := (keptLines bs).map Utf8.lossyText

/-- A channel delivers the lines of its bytes if and only if none of them is split. -/
theorem delivers_keptTexts (name : String) {timeout : Nat} (ht : 1 ≤ timeout)
    {script : List Signal} (h : .ended ∉ script) :
    (ofScript name timeout script).Delivers (keptTexts (Signal.bytes script)) ↔
      ¬SplitsFullLine (Signal.reads script) := by
  have hdelivers := delivers_ofScript name ht script
  obtain ⟨hfewer, hsame⟩ := Signal.lineTexts_marks name h
  constructor
  · intro hkept hsplits
    have heq := hkept.unique hdelivers
    have hlt := hfewer hsplits
    rw [← heq, keptTexts, List.length_map] at hlt
    exact Nat.lt_irrefl _ hlt
  · intro hsplits
    rw [keptTexts, ← hsame hsplits]
    exact hdelivers

/-- **How the bytes come matters for nothing but a split line.**  A channel delivers the lines of
its bytes unless a read ends between the carriage return and the line feed of a line of just the
greatest length.  Two channels that are sent the same bytes, not both with such a read, deliver the
same lines if and only if neither has one. -/
theorem same_lines_iff_not_split (name name' : String) {timeout timeout' : Nat}
    (ht : 1 ≤ timeout) (ht' : 1 ≤ timeout') {script script' : List Signal}
    (hs : .ended ∉ script) (hs' : .ended ∉ script')
    (hbytes : Signal.bytes script = Signal.bytes script') :
    ((ofScript name timeout script).Delivers (keptTexts (Signal.bytes script)) ↔
        ¬SplitsFullLine (Signal.reads script)) ∧
      ((ofScript name' timeout' script').Delivers (keptTexts (Signal.bytes script)) ↔
        ¬SplitsFullLine (Signal.reads script')) ∧
      (¬SplitsFullLine (Signal.reads script) ∨ ¬SplitsFullLine (Signal.reads script') →
        ((∃ texts, (ofScript name timeout script).Delivers texts ∧
            (ofScript name' timeout' script').Delivers texts) ↔
          ¬SplitsFullLine (Signal.reads script) ∧ ¬SplitsFullLine (Signal.reads script'))) := by
  have hiff := delivers_keptTexts name ht hs
  have hiff' := delivers_keptTexts name' ht' hs'
  rw [← hbytes] at hiff'
  refine ⟨hiff, hiff', fun hone => ⟨?_, ?_⟩⟩
  · rintro ⟨texts, htexts, htexts'⟩
    rcases hone with h | h
    · have heq := (hiff.2 h).unique htexts
      exact ⟨h, hiff'.1 (heq ▸ htexts')⟩
    · have heq := (hiff'.2 h).unique htexts'
      exact ⟨hiff.1 (heq ▸ htexts), h⟩
  · rintro ⟨h, h'⟩
    exact ⟨_, hiff.2 h, hiff'.2 h'⟩

/-- Only a stream with more bytes than a line can have splits one. -/
theorem maxLine_lt_of_splits {reads : List (List UInt8)} (h : SplitsFullLine reads) :
    maxLine < reads.flatten.length := by
  obtain ⟨before, next, after, line, rfl, -, hline, hlen⟩ := h
  have hle : (unfinished ([] ++ before.flatten)).length ≤ before.flatten.length :=
    (List.rtakeWhile_suffix _ _).length_le
  rw [hline, List.length_append] at hle
  rw [List.flatten_append, List.length_append]
  simp only [List.length_singleton] at hle
  omega

/-- Two short lines, in one chunk and in pieces. -/
theorem same_lines_iff_not_split_of_short :
    Signal.bytes [.chunk 0x61 [0x62, 0x0D, 0x0A, 0x63]] =
        Signal.bytes [.chunk 0x61 [0x62], .silence 70, .chunk 0x0D [], .chunk 0x0A [0x63]] ∧
      (ofScript "mock" 50 [.chunk 0x61 [0x62, 0x0D, 0x0A, 0x63]]).Delivers
        (keptTexts [0x61, 0x62, 0x0D, 0x0A, 0x63]) ∧
      ∃ texts,
        (ofScript "mock" 50 [.chunk 0x61 [0x62, 0x0D, 0x0A, 0x63]]).Delivers texts ∧
        (ofScript "other" 7 [.chunk 0x61 [0x62], .silence 70, .chunk 0x0D [],
          .chunk 0x0A [0x63]]).Delivers texts := by
  have hbytes : Signal.bytes [.chunk 0x61 [0x62, 0x0D, 0x0A, 0x63]] =
      Signal.bytes [.chunk 0x61 [0x62], .silence 70, .chunk 0x0D [], .chunk 0x0A [0x63]] := rfl
  have ht : 1 ≤ 50 := by decide
  have ht' : 1 ≤ 7 := by decide
  obtain ⟨hkept, -, hsame⟩ :=
    same_lines_iff_not_split "mock" "other" ht ht' (by decide) (by decide) hbytes
  have hshort : ∀ script, Signal.bytes script = [0x61, 0x62, 0x0D, 0x0A, 0x63] →
      ¬SplitsFullLine (Signal.reads script) := by
    intro script hscript hsplits
    have hlt := maxLine_lt_of_splits hsplits
    rw [Signal.flatten_reads, hscript] at hlt
    exact absurd hlt (by decide)
  refine ⟨hbytes, hkept.2 (hshort _ rfl), (hsame (.inl (hshort _ rfl))).2 ?_⟩
  exact ⟨hshort _ rfl, hshort _ rfl⟩

theorem not_splitsFullLine {reads : List (List UInt8)} (h : ∀ r ∈ reads, r.head? ≠ some Csv.lf) :
    ¬SplitsFullLine reads := by
  rintro ⟨before, next, after, line, rfl, hnext, -⟩
  exact h next (List.mem_append_right _ List.mem_cons_self) hnext

section LongLine

variable {first : UInt8} {more : List UInt8} (hlf : Csv.lf ∉ first :: more)

include hlf

/-- A line whose CR LF comes in a read of its own is not split. -/
theorem not_splits_of_together :
    ¬SplitsFullLine (Signal.reads [.chunk first more, .chunk Csv.cr [Csv.lf]]) := by
  refine not_splitsFullLine fun r hr => ?_
  rw [Signal.reads_chunk, Signal.reads_chunk,
    Arrival.filterMap_blocks (show [Csv.cr, Csv.lf] ≠ [] by simp) (by decide)] at hr
  rcases List.mem_append.1 hr with h | h
  · exact Arrival.head?_ne_lf hlf h
  · rw [show r = [Csv.cr, Csv.lf] from List.mem_singleton.1 h]
    decide

/-- A line of the greatest length is split when only its line feed comes in another read. -/
theorem splits_of_apart (hlen : (first :: more).length = maxLine) :
    SplitsFullLine (Signal.reads [.chunk first (more ++ [Csv.cr]), .chunk Csv.lf []]) := by
  rw [Signal.reads_chunk, Signal.reads_chunk,
    Arrival.filterMap_blocks (show [Csv.lf] ≠ [] by simp) (by decide)]
  refine ⟨_, [Csv.lf], [], first :: more, rfl, rfl, ?_, hlen⟩
  rw [List.nil_append, Arrival.flatten_blocks, ← List.cons_append, unfinished_of_not_mem]
  simpa [Csv.lf, Csv.cr] using hlf

end LongLine

/-- A line of the greatest length with CR LF, in two ways. -/
theorem full_line_lost_when_split :
    Signal.bytes [.chunk 0x7A (List.replicate 65535 0x7A), .chunk Csv.cr [Csv.lf]] =
        Signal.bytes [.chunk 0x7A (List.replicate 65535 0x7A ++ [Csv.cr]), .chunk Csv.lf []] ∧
      ¬∃ texts,
        (ofScript "mock" 50
          [.chunk 0x7A (List.replicate 65535 0x7A), .chunk Csv.cr [Csv.lf]]).Delivers texts ∧
        (ofScript "mock" 50
          [.chunk 0x7A (List.replicate 65535 0x7A ++ [Csv.cr]),
            .chunk Csv.lf []]).Delivers texts := by
  have hlf : Csv.lf ∉ 0x7A :: List.replicate 65535 (0x7A : UInt8) := by
    rw [← List.replicate_succ]
    exact fun h => absurd (List.eq_of_mem_replicate h) (by decide)
  have hlen : (0x7A :: List.replicate 65535 (0x7A : UInt8)).length = maxLine := by
    rw [List.length_cons, List.length_replicate]
    rfl
  revert hlf hlen
  generalize List.replicate 65535 (0x7A : UInt8) = zs
  intro hlf hlen
  have hbytes : Signal.bytes [.chunk 0x7A zs, .chunk Csv.cr [Csv.lf]] =
      Signal.bytes [.chunk 0x7A (zs ++ [Csv.cr]), .chunk Csv.lf []] := by
    simp [Signal.bytes]
  refine ⟨hbytes, ?_⟩
  rintro ⟨texts, h, h'⟩
  have ht : 1 ≤ 50 := by decide
  have hkept := (delivers_keptTexts "mock" ht (by simp)).2 (not_splits_of_together hlf)
  rw [← hkept.unique h, hbytes] at h'
  exact (delivers_keptTexts "mock" ht (by simp)).1 h' (splits_of_apart hlf hlen)

end Device
end TelemetryLog
