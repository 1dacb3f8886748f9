import TelemetryLog.Recorder.Basic

/-!
# Recording until told to stop

`Recorder.run` steps until a shutdown is due or a read fails.  Whether a shutdown is due is looked
at before every read, and a shutdown that comes while a read is waiting ends the read; so a line
that was read is always dealt with, and nothing that is ready at the moment of the shutdown is.

## What is here

* `Shutdown` — when to stop.
* `Run`, `Run.Ending` — what came of a run.
* `Recorder.run` — the run.  A source that never waits could be idle for ever, so a run that does
  not stop after a number of reads ends as `unending` when that begins.

## Why the recursion ends

A read that gives a line uses up something of what the source has to give (`Source.work`), and so
does an idle one of a source that waits at all.  An idle read of a source that never waits uses up
nothing; but a shutdown that counts reads has come nearer by then, and with any other shutdown the
run is `unending`, since neither time nor the source moves on.  So the pair of the two numbers goes
down, and no fuel is needed.  With a timeout of at least one millisecond a run is never `unending`;
`Proofs.Recorder.Rows` says how it ends instead.
-/

set_option autoImplicit false

namespace TelemetryLog

/-- When to stop. -/
inductive Shutdown where
  /-- Not at all. -/
  | never
  /-- After so many milliseconds. -/
  | afterTime (ms : Nat)
  /-- After so many reads. -/
  | afterReads (reads : Nat)
deriving DecidableEq, Repr

namespace Shutdown

/-- Is it time to stop? -/
def isDue : Shutdown → Bool
  | .never => false
  | .afterTime ms => ms == 0
  | .afterReads reads => reads == 0

/-- The time left until the moment to stop, if it is known. -/
def moment? : Shutdown → Option Nat
  | .afterTime ms => some ms
  | _ => none

/-- The number of reads that are left before the shutdown, if it counts them. -/
def readsLeft? : Shutdown → Option Nat
  | .afterReads reads => some reads
  | _ => none

/-- The shutdown after a read that took so long. -/
def afterRead (elapsed : Nat) : Shutdown → Shutdown
  | .never => .never
  | .afterTime ms => .afterTime (ms - elapsed)
  | .afterReads reads => .afterReads (reads - 1)

/-- A shutdown that counts reads and is not due comes nearer with every read. -/
theorem readsLeft_afterRead_lt {s : Shutdown} (h : s.isDue = false) (elapsed : Nat)
    (hs : s.readsLeft?.isSome = true) :
    (s.afterRead elapsed).readsLeft?.getD 0 < s.readsLeft?.getD 0 := by
  cases s with
  | never => cases hs
  | afterTime ms => cases hs
  | afterReads reads =>
    simp only [isDue, beq_eq_false_iff_ne] at h
    simp only [afterRead, readsLeft?, Option.getD_some]
    omega

end Shutdown

/-- Why a run ended. -/
inductive Ending where
  /-- It was told to stop. -/
  | stopped
  /-- A read failed. -/
  | failed (fault : Fault)
  /-- It would go on for ever without any time passing. -/
  | unending
deriving DecidableEq, Repr

/-- What came of a run. -/
structure Run where
  /-- Why it ended. -/
  ending : Ending
  /-- What was met. -/
  counts : Counts
  /-- The log at the end. -/
  log : LogFile
  /-- The disk at the end. -/
  disk : Disk
  /-- The time it took. -/
  elapsed : Nat
  /-- What was done, in order. -/
  deeds : List Deed

/-- What was told, in order. -/
def Run.events (run : Run) : List Event := Deed.told run.deeds

/-- The run that other deeds precede, which took so long. -/
def Run.after (run : Run) (elapsed : Nat) (deeds : List Deed) : Run :=
  { run with elapsed := elapsed + run.elapsed, deeds := deeds ++ run.deeds }

namespace Recorder

/-- The first words of a run. -/
def startEvent (r : Recorder) : Event := tell .info ("Logging to " ++ r.log.path)

/-- The last words of a run that was told to stop. -/
def summary (r : Recorder) : List Event :=
  [tell .info "[STOP] Logging terminated by user",
    tell .info
      ("Rows logged: " ++ toString r.log.rows ++ " (lines read: " ++ toString r.counts.lines ++
        ", non-JSON: " ++ toString r.counts.chatter ++ ", malformed: " ++
        toString r.counts.malformed ++ ", idle reads: " ++ toString r.counts.idle ++ ")"),
    tell .debug "Ingestion loop Stopped"]

/-- The end of a run that is told to stop after a last wait. -/
def stopRun (r : Recorder) (d : Disk) (elapsed : Nat) (events : List Event) : Run :=
  ⟨.stopped, r.counts, r.log, d, elapsed,
    (events ++ [tell .debug "Shutdown requested"] ++ r.source.released ++ r.summary).map .tell⟩

/-- The end of a run whose last read failed. -/
def failRun (r : Recorder) (d : Disk) (read : Source.Read) (fault : Fault) : Run :=
  ⟨.failed fault, r.counts, r.log, d, read.elapsed,
    (read.events ++ [tell .error ("Logging stopped: " ++ fault.message)] ++
      read.source.released).map .tell⟩

/-- The rest of a run. -/
def runFrom (r : Recorder) (d : Disk) (s : Shutdown) : Run :=
  if _hs : s.isDue then r.stopRun d 0 []
  else
    let read := r.source.readUntil s.moment?
    match _h : (r.source.readUntil s.moment?).reply with
    | .stopped => r.stopRun d read.elapsed read.events
    | .failed fault => r.failRun d read fault
    | .line text =>
      let step := r.stepWith d read (some text)
      let deeds := step.deeds
      (runFrom step.recorder step.disk (s.afterRead read.elapsed)).after read.elapsed deeds
    | .idle =>
      let step := r.stepWith d read none
      if _hw : r.source.neverWaits ∧ s.readsLeft?.isNone then
        ⟨.unending, step.recorder.counts, step.recorder.log, step.disk, step.elapsed, step.deeds⟩
      else
        let deeds := step.deeds
        (runFrom step.recorder step.disk (s.afterRead read.elapsed)).after read.elapsed deeds
termination_by (r.source.work, s.readsLeft?.getD 0)
decreasing_by
  · exact Prod.Lex.left _ _ (Source.work_lt_of_line _h)
  · have hdue : s.isDue = false := by simpa using _hs
    by_cases hwaits : r.source.neverWaits = true
    · have hcounts : s.readsLeft?.isSome = true :=
        Option.isSome_iff_ne_none.2 fun hnone => _hw ⟨hwaits, Option.isNone_iff_eq_none.2 hnone⟩
      exact Prod.Lex.right' _ (Source.work_le_of_idle _h)
        (Shutdown.readsLeft_afterRead_lt hdue _ hcounts)
    · exact Prod.Lex.left _ _ (Source.work_lt_of_idle _h (by simpa using hwaits))

/-- Records until told to stop, or until a read fails. -/
def run (r : Recorder) (d : Disk) (s : Shutdown) : Run :=
  let rest := r.runFrom d s
  { rest with deeds := .tell r.startEvent :: rest.deeds }

end Recorder
end TelemetryLog
