import TelemetryLog.Proofs.Device.Waiting
import TelemetryLog.Proofs.Log.Columns
import TelemetryLog.Proofs.Log.Start
import TelemetryLog.Recorder.Run

/-!
# What a run writes

A run calls its source again and again, and each line that carries an object becomes a row at the
end of the log.  `Shutdown.precedes` says when a shutdown cuts a call short, `EndsAfter` how many
calls there are before the run ends and why it ends then, and `RowsHeard` which rows belong to what
these calls return.

The main statement is that a run writes the rows of those calls to its file and nothing else, to
that file or any other.

## What is said without the program

`RowsHeard` relates the replies of a channel to rows of texts: one row for each line that carries an
object, in the order of the lines, and none for any other reply.  A row has for each column the text
of the member of its name (`Payload.IsRow`), and the bytes of rows are those of `Csv.RowsText`.
Nothing in this refers to what the recorder does with a line, so a recorder that wrote no row, or
another one, would not satisfy the statement.

When a run ends is said in the same way.  `EndsAfter c s n ending` speaks of the channel `c` alone,
called again and again without a moment to stop at: the first `n` calls neither fail nor take until
the shutdown `s`, and the next one does one of the two.  `EndsAfter.unique` says that there is only
one such `n`, and only one way to end.

## How it goes

A shutdown that comes in the middle of a call stops it, and then the call has returned nothing and
lost nothing (`Proofs.Device.Waiting`), so it may be compared with the call that would have been
made without the shutdown.  Each round of the recursion of a run is one call: it is cut short, or it
fails, or it is dealt with and the rest of the run goes on from there (`exists_succ`).
`runFrom_device` is the induction along that recursion.

A row is written while its line is dealt with, and a shutdown is looked at only between two reads
and while one waits.  So a shutdown that comes while a row is being written finds the row there.

The statement needs a timeout of at least one millisecond.  A channel that never waits could be idle
for ever without any time passing; what becomes of a run then is in `Recorder.Run`.
-/

set_option autoImplicit false

namespace TelemetryLog

open Device (Channel Signal)
open Device.Channel (Reply ofScript)
open LogFile (rowOf)

/-! ## Shutdowns

A shutdown comes at a time or after a number of reads.  Seen from a channel that is called without
it, it comes in the first call that is over at that time or later, or before the call whose number
is one too many. -/

namespace Shutdown

/-- Does the shutdown come before this many reads are over, the last of them at this time? -/
def precedes : Shutdown → Nat → Nat → Bool
  | .never, _, _ => false
  | .afterTime ms, _, time => decide (ms ≤ time)
  | .afterReads limit, reads, _ => decide (limit < reads)

theorem precedes_of_isDue {s : Shutdown} (h : s.isDue = true) (time : Nat) :
    s.precedes 1 time = true := by
  cases s with
  | never => cases h
  | afterTime ms =>
    rw [isDue, beq_iff_eq] at h
    simp [precedes, h]
  | afterReads limit =>
    rw [isDue, beq_iff_eq] at h
    simp [precedes, h]

/-- A shutdown that does not come in a read comes that much sooner after it. -/
theorem precedes_afterRead {s : Shutdown} {elapsed : Nat} (h : s.precedes 1 elapsed = false)
    (reads time : Nat) :
    (s.afterRead elapsed).precedes reads time = s.precedes (reads + 1) (elapsed + time) := by
  cases s with
  | never => rfl
  | afterTime ms =>
    simp only [precedes, decide_eq_false_iff_not] at h
    simp only [afterRead, precedes, decide_eq_decide]
    omega
  | afterReads limit =>
    simp only [precedes, decide_eq_false_iff_not] at h
    simp only [afterRead, precedes, decide_eq_decide]
    omega

/-- A shutdown that is not due stops the next call if it comes before the call is over, and does
not matter to the call otherwise. -/
theorem readUntil_moment {s : Shutdown} (h : s.isDue = false) (c : Channel) :
    if s.precedes 1 c.read.elapsed then (c.readUntil s.moment?).reply = .stopped
    else c.readUntil s.moment? = c.read := by
  cases s with
  | never => rfl
  | afterTime ms =>
    have hms : 0 < ms := by
      rw [isDue, beq_eq_false_iff_ne] at h
      omega
    simp only [precedes, decide_eq_true_eq]
    exact c.readUntil_eq hms
  | afterReads limit =>
    have hlimit : ¬limit < 1 := by
      rw [isDue, beq_eq_false_iff_ne] at h
      omega
    simp only [precedes, hlimit]
    rfl

theorem precedes_of_stopped {s : Shutdown} (h : s.isDue = false) {c : Channel}
    (hc : (c.readUntil s.moment?).reply = .stopped) : s.precedes 1 c.read.elapsed = true := by
  have hread := readUntil_moment h c
  by_cases hs : s.precedes 1 c.read.elapsed = true
  · exact hs
  · rw [if_neg hs] at hread
    rw [hread] at hc
    exact absurd hc c.read_ne_stopped

theorem readUntil_of_ne_stopped {s : Shutdown} (h : s.isDue = false) {c : Channel}
    (hc : (c.readUntil s.moment?).reply ≠ .stopped) :
    s.precedes 1 c.read.elapsed = false ∧ c.readUntil s.moment? = c.read := by
  have hread := readUntil_moment h c
  by_cases hs : s.precedes 1 c.read.elapsed = true
  · rw [if_pos hs] at hread
    exact absurd hread hc
  · rw [if_neg hs] at hread
    exact ⟨by simpa using hs, hread⟩

end Shutdown

/-! ## What was heard

`RowsHeard` is the relation that statements use, and `recordOf` computes the same for proofs: the
record of a reply, if it has one (`rowsHeard_iff`). -/

/-- The rows of some replies: one for each line that carries an object, in that order, and none for
anything else. -/
inductive RowsHeard (schema : Schema) : List Reply → List (List String) → Prop
  /-- Nothing was heard. -/
  | nil : RowsHeard schema [] []
  /-- First there is a line that carries an object. -/
  | object {line : String} {p : Payload} {row : List String} {replies : List Reply}
    {rows : List (List String)} (hline : Line.read line = .payload p)
    (hrow : p.IsRow schema row) (h : RowsHeard schema replies rows) :
    RowsHeard schema (.line line :: replies) (row :: rows)
  /-- First there is something else. -/
  | other {reply : Reply} {replies : List Reply} {rows : List (List String)}
    (hreply : ∀ line p, reply = .line line → Line.read line ≠ .payload p)
    (h : RowsHeard schema replies rows) : RowsHeard schema (reply :: replies) rows

/-- The record that a reply carries, if it is the line of an object. -/
def recordOf (schema : Schema) : Reply → Option Record
  | .line text =>
    match Line.read text with
    | .payload p => some (Record.ofPayload p schema)
    | _ => none
  | _ => none

section Heard

variable {schema : Schema} {reply : Reply} {replies : List Reply} {rows : List (List String)}

theorem recordOf_of_payload {line : String} {p : Payload} (h : Line.read line = .payload p) :
    recordOf schema (.line line) = some (Record.ofPayload p schema) := by
  rw [recordOf, h]

theorem recordOf_eq_none_iff :
    recordOf schema reply = none ↔
      ∀ line p, reply = .line line → Line.read line ≠ .payload p := by
  constructor
  · rintro hnone line p rfl hread
    rw [recordOf_of_payload hread] at hnone
    cases hnone
  · intro hother
    cases reply with
    | line text =>
      rw [recordOf]
      split
      · rename_i p hread
        exact absurd hread (hother text p rfl)
      · rfl
    | _ => rfl

/-- The rows of what was heard are those of its records. -/
theorem rowsHeard_iff :
    RowsHeard schema replies rows ↔
      rows = (replies.filterMap (recordOf schema)).map Record.fields := by
  constructor
  · intro h
    induction h with
    | nil => rfl
    | object hline hrow _ ih =>
      rw [List.filterMap_cons_some (recordOf_of_payload hline), List.map_cons, ← ih,
        (Line.isRow_iff hline).1 hrow]
    | other hreply _ ih => rw [List.filterMap_cons_none (recordOf_eq_none_iff.2 hreply), ih]
  · rintro rfl
    induction replies with
    | nil => exact .nil
    | cons reply replies ih =>
      by_cases h : ∀ line p, reply = .line line → Line.read line ≠ .payload p
      · rw [List.filterMap_cons_none (recordOf_eq_none_iff.2 h)]
        exact .other h ih
      · simp only [not_forall, not_not] at h
        obtain ⟨line, p, rfl, hline⟩ := h
        rw [List.filterMap_cons_some (recordOf_of_payload hline)]
        exact .object hline (p.isRow_fields schema) ih

end Heard

namespace Recorder

/-- Dealing with what was read adds its row to the log, if it has one, and does nothing else to the
disk. -/
theorem handle_eq (log : LogFile) (d : Disk) (line : Option String) :
    (handle log d line).log =
        { log with
          rows := log.rows + (recordOf log.schema (line.elim .idle .line)).toList.length } ∧
      (handle log d line).disk =
        d.append log.number
          ((recordOf log.schema (line.elim .idle .line)).toList.flatMap rowOf) := by
  cases line with
  | none => exact ⟨rfl, (d.append_nil _).symm⟩
  | some text =>
    simp only [handle, plan, Option.elim, recordOf]
    cases Line.read text with
    | payload p => exact ⟨rfl, by rw [Option.toList, List.flatMap_singleton]; rfl⟩
    | chatter => exact ⟨rfl, (d.append_nil _).symm⟩
    | malformed => exact ⟨rfl, (d.append_nil _).symm⟩

/-! ## How long a run is

`EndsAfter` looks at a channel that is called again and again without a shutdown, and asks after
which of these calls a run must be over.  It does not mention the run. -/

/-- A run that is told to stop by `s` reads a channel this often, and then ends like this. -/
structure EndsAfter (c : Channel) (s : Shutdown) (n : Nat) (ending : Ending) : Prop where
  /-- The shutdown does not come in the reads. -/
  not_stopped : ∀ k < n, s.precedes (k + 1) (c.clock (k + 1)) = false
  /-- None of them fails. -/
  not_failed : ∀ k < n, ∀ fault, (c.later k).read.reply ≠ .failed fault
  /-- The shutdown comes in the next one, or else that one fails. -/
  ending_eq : if s.precedes (n + 1) (c.clock (n + 1)) then ending = .stopped
    else ∃ fault, (c.later n).read.reply = .failed fault ∧ ending = .failed fault

namespace EndsAfter

variable {c : Channel} {s : Shutdown}

theorem zero_of_precedes (h : s.precedes 1 c.read.elapsed = true) :
    EndsAfter c s 0 .stopped :=
  ⟨by simp, by simp, by simp [Channel.clock, h]⟩

theorem zero_of_failed (h : s.precedes 1 c.read.elapsed = false) {fault : Fault}
    (hfault : c.read.reply = .failed fault) : EndsAfter c s 0 (.failed fault) :=
  ⟨by simp, by simp, by simp [Channel.clock, h, Channel.later, hfault]⟩

/-- One more read comes before the others. -/
theorem succ (h : s.precedes 1 c.read.elapsed = false)
    (hfault : ∀ fault, c.read.reply ≠ .failed fault) {n : Nat} {ending : Ending}
    (hrest : EndsAfter c.read.channel (s.afterRead c.read.elapsed) n ending) :
    EndsAfter c s (n + 1) ending := by
  refine ⟨fun k hk => ?_, fun k hk => ?_, ?_⟩
  · cases k with
    | zero => simpa [Channel.clock] using h
    | succ k =>
      have := hrest.not_stopped k (by omega)
      rwa [Shutdown.precedes_afterRead h] at this
  · cases k with
    | zero => exact hfault
    | succ k => exact hrest.not_failed k (by omega)
  · have := hrest.ending_eq
    rwa [Shutdown.precedes_afterRead h] at this

theorem le {n n' : Nat} {ending ending' : Ending} (h : EndsAfter c s n ending)
    (h' : EndsAfter c s n' ending') : n' ≤ n := by
  refine Nat.le_of_not_lt fun hlt => ?_
  have hend := h.ending_eq
  rw [h'.not_stopped n hlt, if_neg Bool.false_ne_true] at hend
  obtain ⟨fault, hfault, -⟩ := hend
  exact h'.not_failed n hlt fault hfault

/-- How often a run reads, and how it ends, is settled by its channel and its shutdown. -/
theorem unique {n n' : Nat} {ending ending' : Ending} (h : EndsAfter c s n ending)
    (h' : EndsAfter c s n' ending') : n = n' ∧ ending = ending' := by
  obtain rfl : n = n' := Nat.le_antisymm (h'.le h) (h.le h')
  refine ⟨rfl, ?_⟩
  have hend := h.ending_eq
  have hend' := h'.ending_eq
  by_cases hs : s.precedes (n + 1) (c.clock (n + 1)) = true
  · rw [if_pos hs] at hend hend'
    rw [hend, hend']
  · rw [if_neg hs] at hend hend'
    obtain ⟨fault, hfault, rfl⟩ := hend
    obtain ⟨fault', hfault', rfl⟩ := hend'
    rw [hfault, Reply.failed.injEq] at hfault'
    rw [hfault']

end EndsAfter

/-! ## Runs -/

/-- What comes after a read that is neither cut short nor failed. -/
theorem exists_succ (line : Option String) {c : Channel} {s : Shutdown} {read : Channel.Read}
    (hread : read = c.read) (hs : s.precedes 1 c.read.elapsed = false)
    (hreply : read.reply = line.elim .idle .line) {log : LogFile} {d d' : Disk} {ending : Ending}
    (hrest : ∃ n, EndsAfter read.channel (s.afterRead read.elapsed) n ending ∧
      d' = (handle log d line).disk.append (handle log d line).log.number
        (((read.channel.replies n).filterMap
          (recordOf (handle log d line).log.schema)).flatMap rowOf)) :
    ∃ n, EndsAfter c s n ending ∧
      d' = d.append log.number (((c.replies n).filterMap (recordOf log.schema)).flatMap rowOf) := by
  subst hread
  obtain ⟨n, hends, rfl⟩ := hrest
  obtain ⟨hlog, hdisk⟩ := handle_eq log d line
  have hfault : ∀ fault, c.read.reply ≠ .failed fault := by
    cases line <;> simp [hreply]
  refine ⟨n + 1, hends.succ hs hfault, ?_⟩
  rw [hdisk, hlog, Disk.append_append, Channel.replies, hreply]
  cases hrecord : recordOf log.schema (line.elim .idle .line) <;> simp [hrecord]

/-- A run of a channel that waits adds the rows of the calls before its end, and it does end. -/
theorem runFrom_device (r : Recorder) (d : Disk) (s : Shutdown) :
    ∀ c : Channel, r.source = .device c → 1 ≤ c.timeout →
      ∃ n, EndsAfter c s n (r.runFrom d s).ending ∧
        (r.runFrom d s).disk = d.append r.log.number
          (((c.replies n).filterMap (recordOf r.log.schema)).flatMap rowOf) := by
  fun_induction runFrom r d s with
  | case1 r d s hdue =>
    intro c _ _
    exact ⟨0, .zero_of_precedes (Shutdown.precedes_of_isDue hdue _), (d.append_nil _).symm⟩
  | case2 r d s hdue read hread =>
    obtain ⟨source, log, counts⟩ := r
    rintro c rfl -
    refine ⟨0, .zero_of_precedes ?_, (d.append_nil _).symm⟩
    exact Shutdown.precedes_of_stopped (by simpa using hdue) hread
  | case3 r d s hdue read fault hread =>
    obtain ⟨source, log, counts⟩ := r
    rintro c rfl -
    have hreply : (c.readUntil s.moment?).reply = .failed fault := hread
    obtain ⟨hs, heq⟩ := Shutdown.readUntil_of_ne_stopped (by simpa using hdue)
      (show (c.readUntil s.moment?).reply ≠ .stopped by simp [hreply])
    exact ⟨0, .zero_of_failed hs (heq ▸ hreply), (d.append_nil _).symm⟩
  | case4 r d s hdue read text hread step events ih =>
    obtain ⟨source, log, counts⟩ := r
    rintro c rfl ht
    have hreply : (c.readUntil s.moment?).reply = .line text := hread
    obtain ⟨hs, heq⟩ := Shutdown.readUntil_of_ne_stopped (by simpa using hdue)
      (show (c.readUntil s.moment?).reply ≠ .stopped by simp [hreply])
    have htimeout := (c.readUntil_timeout s.moment?).symm ▸ ht
    exact exists_succ (some text) heq hs hreply (ih _ rfl htimeout)
  | case5 r d s hdue read hread step hw =>
    obtain ⟨source, log, counts⟩ := r
    rintro c rfl ht
    rw [Source.neverWaits, beq_iff_eq] at hw
    omega
  | case6 r d s hdue read hread step hw events ih =>
    obtain ⟨source, log, counts⟩ := r
    rintro c rfl ht
    have hreply : (c.readUntil s.moment?).reply = .idle := hread
    obtain ⟨hs, heq⟩ := Shutdown.readUntil_of_ne_stopped (by simpa using hdue)
      (show (c.readUntil s.moment?).reply ≠ .stopped by simp [hreply])
    have htimeout := (c.readUntil_timeout s.moment?).symm ▸ ht
    exact exists_succ none heq hs hreply (ih _ rfl htimeout)

/-- **A run writes one row for each object it reads before it ends, and nothing else.**  It reads
until the shutdown comes or a read fails, whichever is first.  The rows of what was read, in order,
are then at the end of the file, and they are all that has changed on the disk. -/
theorem run_writes_rows {d d₁ : Disk} (hd : d.Sound) {path : String} {verify : Bool}
    {schema : Schema} {log : LogFile} {events : List Event}
    (hstart : LogFile.start d path verify schema = ⟨.ok log, d₁, events⟩) (name : String)
    {timeout : Nat} (ht : 1 ≤ timeout) (script : List Signal) (s : Shutdown) :
    ∃ n before rows bytes,
      EndsAfter (ofScript name timeout script) s n
          (run ⟨.device (ofScript name timeout script), log, {}⟩ d₁ s).ending ∧
        RowsHeard schema ((ofScript name timeout script).replies n) rows ∧
        Csv.RowsText rows bytes ∧
        (run ⟨.device (ofScript name timeout script), log, {}⟩ d₁ s).disk =
          d₁.append log.number bytes ∧
        d₁.read path = .ok before ∧
        (run ⟨.device (ofScript name timeout script), log, {}⟩ d₁ s).disk.read path =
          .ok (before ++ bytes) := by
  have hsound : d₁.Sound := by
    have h : (LogFile.start d path verify schema).disk.Sound := LogFile.sound_start hd
    rwa [hstart] at h
  obtain ⟨-, rfl, hopen⟩ := LogFile.of_start_eq_ok (by rw [hstart])
  rw [hstart] at hopen
  obtain ⟨n, hends, hdisk⟩ :=
    runFrom_device ⟨.device (ofScript name timeout script), log, {}⟩ d₁ s _ rfl ht
  have hdisk' : (run ⟨.device (ofScript name timeout script), log, {}⟩ d₁ s).disk =
      d₁.append log.number ((((ofScript name timeout script).replies n).filterMap
        (recordOf log.schema)).flatMap rowOf) := hdisk
  refine ⟨n, d₁.bytes log.number, _, _, hends, rowsHeard_iff.2 rfl, Record.rowsText_fields _,
    hdisk', by rw [Disk.read, hopen], ?_⟩
  rw [hdisk']
  exact Disk.read_append hopen (hsound.of_openAppend hopen) _

/-- A line whose row has to be quoted, and a shutdown that comes while a call waits with half a line
held. -/
theorem run_writes_rows_of_half_line :
    Disk.empty.Sound ∧ 1 ≤ 50 ∧ ∃ log d₁ events script before rows bytes,
      script = [.chunk 0x7B [0x22, 0x70, 0x66, 0x22, 0x3A, 0x5B, 0x22, 0x31, 0x2C, 0x35, 0x22, 0x5D,
          0x7D, 0x0A, 0x7B, 0x22], .silence 120, .chunk 0x7D []] ∧
      before = [0x70, 0x66, 0x0D, 0x0A] ∧ rows = [["[\"1,5\"]"]] ∧
      bytes = [0x22, 0x5B, 0x22, 0x22, 0x31, 0x2C, 0x35, 0x22, 0x22, 0x5D, 0x22, 0x0D, 0x0A] ∧
      LogFile.start Disk.empty "log.csv" true ⟨["pf"]⟩ = ⟨.ok log, d₁, events⟩ ∧
      EndsAfter (ofScript "mock" 50 script) (.afterTime 70) 2
        (run ⟨.device (ofScript "mock" 50 script), log, {}⟩ d₁ (.afterTime 70)).ending ∧
      RowsHeard ⟨["pf"]⟩ ((ofScript "mock" 50 script).replies 2) rows ∧
      Csv.RowsText rows bytes ∧
      (run ⟨.device (ofScript "mock" 50 script), log, {}⟩ d₁ (.afterTime 70)).disk =
        d₁.append log.number bytes ∧
      d₁.read "log.csv" = .ok before ∧
      (run ⟨.device (ofScript "mock" 50 script), log, {}⟩ d₁ (.afterTime 70)).disk.read
        "log.csv" = .ok (before ++ bytes) := by
  have ht : 1 ≤ 50 := by decide
  have hstart : LogFile.start Disk.empty "log.csv" true ⟨["pf"]⟩ =
      ⟨.ok ⟨"log.csv", ⟨["pf"]⟩, 0, 0⟩,
        ⟨["home"], [(["home"], .directory), (["home", "log.csv"], .file 0)],
          [[0x70, 0x66, 0x0D, 0x0A]]⟩,
        [LogFile.tell .info "Created log file log.csv with header"]⟩ := rfl
  obtain ⟨script, hscript⟩ : ∃ script : List Signal, script =
      [.chunk 0x7B [0x22, 0x70, 0x66, 0x22, 0x3A, 0x5B, 0x22, 0x31, 0x2C, 0x35, 0x22, 0x5D,
        0x7D, 0x0A, 0x7B, 0x22], .silence 120, .chunk 0x7D []] := ⟨_, rfl⟩
  -- the second call is idle, and the shutdown comes in the third one
  have hreplies : ∀ k < 2, ((ofScript "mock" 50 script).later k).read.reply ∈
      [Reply.line "\x7b\"pf\":[\"1,5\"]\x7d", .idle] := by
    subst hscript
    decide +kernel
  have htwo : EndsAfter (ofScript "mock" 50 script) (.afterTime 70) 2 .stopped := by
    refine ⟨?_, fun k hk fault hfault => by simpa [hfault] using hreplies k hk, ?_⟩
    · subst hscript
      decide +kernel
    · rw [if_pos]
      subst hscript
      decide +kernel
  obtain ⟨n, before, rows, bytes, hends, hheard, htext, hdisk, hbefore, hread⟩ :=
    run_writes_rows Disk.Sound.empty hstart "mock" ht script (.afterTime 70)
  obtain ⟨rfl, -⟩ := hends.unique htwo
  have hrows : rows = [["[\"1,5\"]"]] :=
    (rowsHeard_iff.1 hheard).trans (by subst hscript; decide +kernel)
  refine ⟨Disk.Sound.empty, ht, _, _, _, script, before, rows, bytes, hscript,
    (Except.ok.inj hbefore).symm, hrows, ?_, hstart, hends, hheard, htext, hdisk, hbefore, hread⟩
  rw [Csv.rowsText_iff.1 htext, hrows]
  decide +kernel

end Recorder
end TelemetryLog
