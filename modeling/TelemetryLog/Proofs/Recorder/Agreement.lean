import TelemetryLog.Proofs.Device.Timing
import TelemetryLog.Proofs.Recorder.Steps

/-!
# A run is its steps

`Recorder.run` does not call `Recorder.step`: it has a moment to stop at to think of, so it reads by
itself and only shares what comes after the read.  Nevertheless it makes no difference whether a
recorder is driven by a run that is told to stop after `n` reads or by `n` steps, and a read that
fails ends a run just where the step fails (`runFrom_eq_steps`).

## What is here

* `lineEvents` — what is told of lines, as opposed to what is told of the source or of the run.
* `EndsAfterSteps` — how many steps there are before a run ends, and why it ends then.
* `Leaves` — a run leaves the counts, the log and the disk of steps, and has told the same of lines.
* `TalliesAgree` — after any steps the counts, the rows of the log, and the rows in the file agree.
* `run_eq_steps` — all of it, for a recorder whose log has just been opened.

## How it goes

A run and a step make the same call of the source, but for the moment to stop at.  A shutdown that
does not come during the call makes no difference to it, and this was proved for channels in
`Proofs.Device.Waiting`; a fixed list of readings has no time in which a shutdown could come.  So
each round of a run is a step, is cut short, or fails (`runFrom_of_step`, `runFrom_of_precedes`,
`runFrom_of_failed`), and the theorem is an induction over the number of steps.

The one difficulty is a source that never waits.  It may be idle for ever, and a run then gives up
as `unending` while steps go on.  But if the steps come to an end at all, then the shutdown counts
reads, or no read can be idle, since a read that is idle now would be idle for ever
(`idle_of_neverWaits`).  `EndsAfterSteps.not_stuck` says that this case does not come up.

Steps may go on after an error, and the tallies are right there too.  They are stated with the
relations of `Proofs.Recorder.Rows`: the rows of what was heard, written one after the other, stand
in the file behind what was there.  So the number of rows that the counts and the log report is the
number of rows in the file, and not only a number that two parts of the program agree on.

What is told besides is not compared.  A run tells where it writes to, that it stops, and a summary;
a step tells none of that.
-/

set_option autoImplicit false

namespace TelemetryLog

open Device (Channel)
open Device.Channel (Reply)

/-! ## What is told of a line

An event is about a line if it comes from the recorder and is one of the two that are told of lines;
the source tells other things, and so do the beginning and the end of a run. -/

/-- Does the event tell what was done with a line? -/
def isLineEvent (e : Event) : Bool :=
  e.origin == .ingest &&
    ("[LOGGED] ".toList.isPrefixOf e.text.toList ||
      "Skipping malformed line: ".toList.isPrefixOf e.text.toList)

/-- What is told of the lines among some events. -/
def lineEvents (events : List Event) : List Event := events.filter isLineEvent

/-- What is told of a reply. -/
def eventsOf (schema : Schema) : Reply → List Event
  | .line text =>
    match Line.read text with
    | .chatter => []
    | .malformed => [Recorder.malformedEvent text]
    | .payload p => [Recorder.loggedEvent (Record.ofPayload p schema)]
  | _ => []

theorem lineEvents_append (as bs : List Event) :
    lineEvents (as ++ bs) = lineEvents as ++ lineEvents bs := List.filter_append as bs

theorem isLineEvent_of_origin {e : Event} (h : e.origin ≠ .ingest) : isLineEvent e = false := by
  rw [isLineEvent, beq_false_of_ne h]
  rfl

theorem lineEvents_eq_nil {events : List Event} (h : ∀ e ∈ events, e.origin ≠ .ingest) :
    lineEvents events = [] :=
  List.filter_eq_nil_iff.2 fun e he => by simp [isLineEvent_of_origin (h e he)]

/-- A read tells nothing of what is done with a line. -/
theorem Device.Channel.origin_of_mem_events (c : Channel) (p : Device.Patience)
    (events : List Event) (as : List Device.Arrival) :
    (∀ e ∈ events, e.origin ≠ .ingest) →
      ∀ e ∈ (c.readFrom p events as).events, e.origin ≠ .ingest := by
  have htell (c : Channel) {events : List Event} (h : ∀ e ∈ events, e.origin ≠ .ingest)
      (s : Device.Scan) : ∀ e ∈ c.tellScan events s, e.origin ≠ .ingest := by
    intro e he
    rcases List.mem_append.1 he with he | he
    · exact h e he
    · rw [List.eq_of_mem_replicate he]
      exact nofun
  fun_induction Channel.readFrom c p events as with
  | case5 c p events _ _ _ _ _ _ ih | case6 c p events _ _ _ _ _ _ _ _ ih =>
    exact fun h => ih (htell c h _)
  | case1 as c p events => exact fun h => htell c h _
  | case2 c p events | case3 c p events | case4 c p events | case7 c p events
  | case8 c p events => exact fun h => htell c h _

theorem Source.lineEvents_readUntil (s : Source) (stop : Option Nat) :
    lineEvents (s.readUntil stop).events = [] := by
  match s with
  | .replayed [] name => rfl
  | .replayed (r :: rs) name => rfl
  | .device c =>
    exact lineEvents_eq_nil (c.origin_of_mem_events _ _ _ fun e h => absurd h List.not_mem_nil)

theorem Source.lineEvents_released (s : Source) : lineEvents s.released = [] := by
  cases s <;> rfl

namespace Recorder

/-- What is told of a line depends on the line and on nothing else. -/
theorem lineEvents_handle (log : LogFile) (d : Disk) (line : Option String) :
    lineEvents (Deed.told (handle log d line).deeds) =
      eventsOf log.schema (line.elim .idle .line) := by
  cases line with
  | none => rfl
  | some text =>
    simp only [handle, plan, Option.elim, eventsOf]
    cases Line.read text with
    | payload p => simp [lineEvents, isLineEvent, loggedEvent, tell]
    | chatter => rfl
    | malformed => simp [lineEvents, isLineEvent, malformedEvent, tell]

theorem lineEvents_step (r : Recorder) (d : Disk) :
    lineEvents (r.step d).events = eventsOf r.log.schema r.source.read.reply := by
  have hread : lineEvents r.source.read.events = [] := r.source.lineEvents_readUntil none
  rcases r.step_cases d with ⟨fault, hreply, hstep⟩ | ⟨line, hreply, hstep⟩
  · rw [hstep, hreply, Step.events, Deed.told_map_tell, hread]
    rfl
  · rw [hstep, hreply, Step.events, stepWith, Deed.told_append, Deed.told_map_tell,
      lineEvents_append, hread, lineEvents_handle]
    rfl

/-- What steps tell of the lines is told of what was heard, in that order. -/
theorem lineEvents_steps (r : Recorder) (d : Disk) (n : Nat) :
    lineEvents ((r.steps d n).flatMap (·.events)) =
      (r.source.replies n).flatMap (eventsOf r.log.schema) := by
  induction n generalizing r d with
  | zero => rfl
  | succ n ih =>
    have hschema : (r.step d).recorder.log.schema = r.log.schema := by rw [(r.step_spec d).2.2.1]
    rw [steps, Source.replies, List.flatMap_cons, List.flatMap_cons, lineEvents_append,
      lineEvents_step, ih, step_source, hschema]

theorem lineEvents_startEvent (r : Recorder) (events : List Event) :
    lineEvents (r.startEvent :: events) = lineEvents events := by
  simp [lineEvents, isLineEvent, startEvent, tell]

theorem lineEvents_stopRun (r : Recorder) (d : Disk) (elapsed : Nat) {events : List Event}
    (h : lineEvents events = []) : lineEvents (r.stopRun d elapsed events).events = [] := by
  rw [stopRun, Run.events, Deed.told_map_tell, lineEvents_append, lineEvents_append,
    lineEvents_append, h, Source.lineEvents_released]
  simp [lineEvents, isLineEvent, summary, tell]

theorem lineEvents_failRun (r : Recorder) (d : Disk) (s : Source) (stop : Option Nat)
    (fault : Fault) : lineEvents (r.failRun d (s.readUntil stop) fault).events = [] := by
  rw [failRun, Run.events, Deed.told_map_tell, lineEvents_append, lineEvents_append,
    Source.lineEvents_readUntil, Source.lineEvents_released]
  simp [lineEvents, isLineEvent, tell]

end Recorder

/-! ## Sources that never wait

With a timeout of zero every silence ends the call at once, and the silence is still there for the
next call. -/

/-- A channel that never waits is idle at once in a silence, and stays in it. -/
theorem Device.Channel.read_of_silence {c : Channel} (ht : c.timeout = 0) {ms : Nat}
    {more : List Device.Arrival} (hms : 0 < ms) (hc : c.ahead = .silence ms :: more) :
    c.read.reply = .idle ∧ c.read.elapsed = 0 ∧ c.read.channel.ahead = c.ahead := by
  obtain ⟨name, timeout, arrivals, block, framer⟩ := c
  obtain rfl : timeout = 0 := ht
  have hblock : block = [] := by
    rw [ahead, Device.Arrival.aheadOf] at hc
    split at hc
    · assumption
    · cases hc
  subst hblock
  obtain rfl : arrivals = .silence ms :: more := hc
  have hwait : (⟨0, none, 0⟩ : Device.Patience).wait ms = .timedOut := by
    simp [Device.Patience.wait, Nat.ne_of_gt hms]
  rw [read, readUntil, readFrom_silence rfl, hwait]
  exact ⟨rfl, rfl, rfl⟩

namespace Source

theorem idle_of_silence {c : Channel} (ht : c.timeout = 0) {ms : Nat}
    {more : List Device.Arrival} (hms : 0 < ms) (hc : c.ahead = .silence ms :: more) (n : Nat) :
    ((device c).later n).read.reply = .idle ∧ (device c).clock n = 0 := by
  induction n generalizing c with
  | zero => exact ⟨(Channel.read_of_silence ht hms hc).1, rfl⟩
  | succ n ih =>
    obtain ⟨-, helapsed, hahead⟩ := Channel.read_of_silence ht hms hc
    obtain ⟨hreply, hclock⟩ := ih (c.read_timeout.trans ht) (hahead.trans hc)
    refine ⟨hreply, ?_⟩
    show c.read.elapsed + (device c.read.channel).clock n = 0
    rw [helapsed, hclock]

/-- A source that never waits and is idle once will always be. -/
theorem idle_of_neverWaits {s : Source} (hw : s.neverWaits = true) (h : s.read.reply = .idle)
    (n : Nat) : (s.later n).read.reply = .idle ∧ s.clock n = 0 := by
  cases s with
  | replayed readings name => cases hw
  | device c =>
    rw [neverWaits, beq_iff_eq] at hw
    cases n with
    | zero => exact ⟨h, rfl⟩
    | succ n =>
      obtain ⟨ms, more, hms, hc⟩ := Channel.readFrom_ahead_of_idle c _ _ _ h
      obtain ⟨hreply, hclock⟩ := idle_of_silence (c.read_timeout.trans hw) hms hc n
      refine ⟨hreply, ?_⟩
      show c.read.elapsed + (device c.read.channel).clock n = 0
      rw [Channel.read_elapsed_of_idle h, hw, hclock]

end Source

/-! ## Runs -/

namespace Shutdown

variable {s : Shutdown}

/-- A shutdown that is not due does not come in a call that takes no time. -/
theorem precedes_zero (h : s.isDue = false) : s.precedes 1 0 = false := by
  cases s with
  | never => rfl
  | afterTime ms => simpa [isDue, precedes, Nat.pos_iff_ne_zero] using h
  | afterReads reads =>
    rw [isDue, beq_eq_false_iff_ne] at h
    simp only [precedes, decide_eq_false_iff_not]
    omega

/-- A shutdown that does not count reads never comes while no time passes. -/
theorem precedes_of_no_time (h : s.isDue = false) (hs : s.readsLeft?.isNone) (reads : Nat) :
    s.precedes reads 0 = false := by
  cases s with
  | never => rfl
  | afterTime ms => simpa [isDue, precedes, Nat.pos_iff_ne_zero] using h
  | afterReads reads => cases hs

/-- A shutdown that is not due stops the next call of a source if it comes before the call is over,
and does not matter to the call otherwise. -/
theorem readUntil_source (h : s.isDue = false) (source : Source) :
    if s.precedes 1 source.read.elapsed then (source.readUntil s.moment?).reply = .stopped
    else source.readUntil s.moment? = source.read := by
  match source with
  | .replayed readings name =>
    have htime : (Source.replayed readings name).read.elapsed = 0 := by cases readings <;> rfl
    rw [htime, if_neg (by simp [precedes_zero h])]
    cases readings <;> rfl
  | .device c =>
    have hc := readUntil_moment h c
    by_cases hs : s.precedes 1 c.read.elapsed = true
    · rw [if_pos hs] at hc
      exact (if_pos hs).mpr hc
    · rw [if_neg hs] at hc
      refine (if_neg hs).mpr ?_
      rw [Source.read, Source.readUntil, Source.readUntil, hc]
      rfl

end Shutdown

namespace Recorder

/-- The run ended like this, and it leaves what steps leave that end with this recorder and this
disk and have told this. -/
structure Leaves (run : Run) (ending : Ending) (r : Recorder) (d : Disk) (told : List Event) :
    Prop where
  /-- Why the run ended. -/
  ending_eq : run.ending = ending
  /-- The counts are the same. -/
  counts_eq : run.counts = r.counts
  /-- The log is the same. -/
  log_eq : run.log = r.log
  /-- The disk is the same. -/
  disk_eq : run.disk = d
  /-- The same is told of the lines. -/
  lineEvents_eq : lineEvents run.events = lineEvents told

theorem Leaves.after {run : Run} {ending : Ending} {r : Recorder} {d : Disk} {told : List Event}
    (h : Leaves run ending r d told) (elapsed : Nat) (deeds : List Deed) :
    Leaves (run.after elapsed deeds) ending r d (Deed.told deeds ++ told) := by
  refine ⟨h.ending_eq, h.counts_eq, h.log_eq, h.disk_eq, ?_⟩
  rw [Run.after, Run.events, Deed.told_append, lineEvents_append, lineEvents_append,
    ← h.lineEvents_eq, Run.events]

section RunFrom

variable {r : Recorder} {d : Disk} {s : Shutdown}

/-- A shutdown that comes in the next read ends the run before it. -/
theorem runFrom_of_precedes (h : s.precedes 1 r.source.read.elapsed = true) :
    Leaves (r.runFrom d s) .stopped r d [] := by
  rw [runFrom]
  split
  · exact ⟨rfl, rfl, rfl, rfl, lineEvents_stopRun r d 0 rfl⟩
  · rename_i hdue
    have hread := Shutdown.readUntil_source (by simpa using hdue) r.source
    rw [if_pos h] at hread
    split
    · exact ⟨rfl, rfl, rfl, rfl, lineEvents_stopRun r d _ (Source.lineEvents_readUntil ..)⟩
    all_goals
      rename_i hreply
      rw [hread] at hreply
      cases hreply

theorem not_isDue_of_precedes (h : s.precedes 1 r.source.read.elapsed = false) :
    s.isDue = false := by
  cases hdue : s.isDue with
  | false => rfl
  | true => exact absurd (Shutdown.precedes_of_isDue hdue _) (Bool.eq_false_iff.1 h)

/-- A read that fails before the shutdown comes ends the run. -/
theorem runFrom_of_failed (h : s.precedes 1 r.source.read.elapsed = false) {fault : Fault}
    (hfault : r.source.read.reply = .failed fault) :
    Leaves (r.runFrom d s) (.failed fault) r d [] := by
  have hdue := not_isDue_of_precedes h
  have hread := Shutdown.readUntil_source hdue r.source
  rw [if_neg (by simp [h])] at hread
  rw [runFrom, dif_neg (by simp [hdue])]
  split
  all_goals
    rename_i hreply
    rw [hread, hfault] at hreply
    cases hreply
  exact ⟨rfl, rfl, rfl, rfl, lineEvents_failRun ..⟩

/-- Any other read is dealt with as a step does it. -/
theorem runFrom_of_step (h : s.precedes 1 r.source.read.elapsed = false)
    (hfault : ∀ fault, r.source.read.reply ≠ .failed fault)
    (hstuck : ¬(r.source.read.reply = .idle ∧ r.source.neverWaits ∧ s.readsLeft?.isNone)) :
    r.runFrom d s =
      ((r.step d).recorder.runFrom (r.step d).disk (s.afterRead r.source.read.elapsed)).after
        r.source.read.elapsed (r.step d).deeds := by
  have hdue := not_isDue_of_precedes h
  -- the call that the run makes returns what the call of the step returns
  have hread := Shutdown.readUntil_source hdue r.source
  rw [if_neg (by simp [h])] at hread
  rw [runFrom, dif_neg (by simp [hdue])]
  split
  · rename_i hreply
    rw [hread] at hreply
    exact absurd hreply r.source.read_ne_stopped
  · rename_i fault hreply
    rw [hread] at hreply
    exact absurd hreply (hfault fault)
  · rename_i text hreply
    rw [hread] at hreply ⊢
    have hstep : r.step d = r.stepWith d r.source.read (some text) := step_of_reply hreply d
    rw [hstep]
  · rename_i hreply
    rw [hread] at hreply
    have hstep : r.step d = r.stepWith d r.source.read none := step_of_reply hreply d
    rw [dif_neg fun hw => hstuck ⟨hreply, hw⟩, hread, hstep]

end RunFrom

/-- These steps do not fail, and neither does the shutdown come in their reads; it comes in the next
one, or else that one fails. -/
structure EndsAfterSteps (r : Recorder) (d : Disk) (s : Shutdown) (n : Nat) (ending : Ending) :
    Prop where
  /-- None of the steps fails. -/
  isOk : ∀ step ∈ r.steps d n, step.result.isOk = true
  /-- The shutdown does not come in their reads. -/
  not_precedes : ∀ k < n, s.precedes (k + 1) (r.source.clock (k + 1)) = false
  /-- It comes in the next one, or that one fails. -/
  ending_eq : if s.precedes (n + 1) (r.source.clock (n + 1)) then ending = .stopped
    else ∃ fault, ((r.later d n).1.step (r.later d n).2).result = .error fault ∧
      ending = .failed fault

namespace EndsAfterSteps

variable {r : Recorder} {d : Disk} {s : Shutdown} {n : Nat} {ending : Ending}

theorem precedes_eq_false (h : EndsAfterSteps r d s (n + 1) ending) :
    s.precedes 1 r.source.read.elapsed = false := by
  simpa [Source.clock] using h.not_precedes 0 (Nat.succ_pos n)

theorem ne_failed (h : EndsAfterSteps r d s (n + 1) ending) (fault : Fault) :
    r.source.read.reply ≠ .failed fault := by
  intro hreply
  have hok := h.isOk _ List.mem_cons_self
  rw [result_step_eq_error_iff.2 hreply] at hok
  cases hok

/-- The first step is followed by the others. -/
theorem tail (h : EndsAfterSteps r d s (n + 1) ending) :
    EndsAfterSteps (r.step d).recorder (r.step d).disk (s.afterRead r.source.read.elapsed) n
      ending := by
  have hfirst := h.precedes_eq_false
  refine ⟨fun step hstep => h.isOk step (List.mem_cons_of_mem _ hstep), fun k hk => ?_, ?_⟩
  · rw [step_source, Shutdown.precedes_afterRead hfirst]
    exact h.not_precedes (k + 1) (Nat.succ_lt_succ hk)
  · rw [step_source, Shutdown.precedes_afterRead hfirst]
    exact h.ending_eq

/-- The steps end only if time passes, or if the shutdown counts them. -/
theorem not_stuck (h : EndsAfterSteps r d s (n + 1) ending) :
    ¬(r.source.read.reply = .idle ∧ r.source.neverWaits ∧ s.readsLeft?.isNone) := by
  rintro ⟨hidle, hw, hs⟩
  have hdue := not_isDue_of_precedes h.precedes_eq_false
  have hend := h.ending_eq
  rw [(Source.idle_of_neverWaits hw hidle _).2, Shutdown.precedes_of_no_time hdue hs,
    if_neg Bool.false_ne_true] at hend
  obtain ⟨fault, hfault, -⟩ := hend
  rw [result_step_eq_error_iff, later_source, (Source.idle_of_neverWaits hw hidle _).1] at hfault
  cases hfault

end EndsAfterSteps

/-- **A run is its steps.** -/
theorem runFrom_eq_steps {r : Recorder} {d : Disk} {s : Shutdown} {n : Nat} {ending : Ending}
    (h : EndsAfterSteps r d s n ending) :
    Leaves (r.runFrom d s) ending (r.later d n).1 (r.later d n).2
      ((r.steps d n).flatMap (·.events)) := by
  induction n generalizing r d s with
  | zero =>
    have hend := h.ending_eq
    rw [show r.source.clock (0 + 1) = r.source.read.elapsed from Nat.add_zero _] at hend
    split at hend
    · rename_i hs
      subst hend
      exact runFrom_of_precedes hs
    · rename_i hs
      obtain ⟨fault, hfault, rfl⟩ := hend
      exact runFrom_of_failed (by simpa using hs) (result_step_eq_error_iff.1 hfault)
  | succ n ih =>
    rw [runFrom_of_step h.precedes_eq_false h.ne_failed h.not_stuck]
    exact (ih h.tail).after _ _

/-! ## What the tallies say

Three parts of the program count independently: the counts of the recorder, the rows of the log, and
the file.  What was heard is the one thing that all of them are compared with. -/

/-- After steps that have heard this, the three tallies agree: the counts, the rows of the log, and
the file that the log was opened on.  So does what has been told of the lines. -/
structure TalliesAgree (log : LogFile) (d₁ : Disk) (heard : List Reply) (steps : List Step)
    (r : Recorder) (d : Disk) : Prop where
  /-- Each count is the number of replies of its kind. -/
  counts_eq : r.counts = Counts.ofOutcomes (heard.filterMap outcomeOf)
  /-- Every line is of one of three kinds. -/
  lines_eq : r.counts.lines = r.counts.chatter + r.counts.malformed + r.counts.logged
  /-- Every step that did not fail is counted. -/
  calls_eq : r.counts.idle + r.counts.lines = steps.countP (·.result.isOk)
  /-- The rows of the log are counted. -/
  logged_eq : r.counts.logged = r.log.rows
  /-- There are as many of them as objects were heard. -/
  rows_eq : r.log.rows = (heard.filterMap (recordOf log.schema)).length
  /-- Their rows, as many, have been added to the file, behind what it said before, and nothing else
  has changed on the disk. -/
  written : ∃ rows bytes before, RowsHeard log.schema heard rows ∧ rows.length = r.log.rows ∧
    Csv.RowsText rows bytes ∧ d = d₁.append log.number bytes ∧ d₁.read log.path = .ok before ∧
    d.read log.path = .ok (before ++ bytes)
  /-- What has been told of the lines is told of what was heard. -/
  lineEvents_eq : lineEvents (steps.flatMap (·.events)) = heard.flatMap (eventsOf log.schema)
  /-- A read that fails changes none of the tallies. -/
  step_of_error : ∀ fault, (r.step d).result = .error fault →
    (r.step d).recorder.counts = r.counts ∧ (r.step d).recorder.log = r.log ∧ (r.step d).disk = d

theorem Tallied.talliesAgree {log : LogFile} {d₁ d : Disk} {heard : List Reply} {r : Recorder}
    (h : Tallied log d₁ heard r d) (hrows : log.rows = 0)
    (hopen : d₁.openAppend log.path = .ok log.number) (hsound : d₁.Sound) {steps : List Step}
    (hsteps : steps.filterMap (·.result.toOption) = heard.filterMap outcomeOf)
    (hevents : lineEvents (steps.flatMap (·.events)) = heard.flatMap (eventsOf log.schema)) :
    TalliesAgree log d₁ heard steps r d := by
  obtain ⟨hcounts, hlog, hdisk⟩ := h
  have hrecords : r.log.rows = (heard.filterMap (recordOf log.schema)).length := by
    rw [hlog, hrows, Nat.zero_add]
  refine ⟨hcounts, ?_, ?_, ?_, hrecords, ⟨_, _, d₁.bytes log.number, rowsHeard_iff.2 rfl, ?_,
    Record.rowsText_fields _, hdisk, ?_, ?_⟩, hevents, fun _ => step_of_error⟩
  · rw [hcounts]
    exact Counts.lines_ofOutcomes _
  · rw [hcounts, Counts.idle_add_lines_ofOutcomes, ← hsteps, List.length_filterMap_eq_countP]
    congr 1
    funext step
    cases step.result <;> rfl
  · rw [hrecords, ← count_logged_eq_length, hcounts]
    rfl
  · rw [hrecords, List.length_map]
  · rw [Disk.read, hopen]
  · rw [hdisk]
    exact Disk.read_append hopen (hsound.of_openAppend hopen) _

/-- **A run and its steps leave the same, and their tallies are right.**  For a recorder whose log
has just been opened: a run that ends after `n` reads leaves the counts, the log and the disk that
`n` steps leave, and tells the same of the lines; and after any number of steps, whether they failed
or not, the counts, the log, the file and what was told agree on what was heard. -/
theorem run_eq_steps {d d₁ : Disk} (hd : d.Sound) {path : String} {verify : Bool}
    {schema : Schema} {log : LogFile} {events : List Event}
    (hstart : LogFile.start d path verify schema = ⟨.ok log, d₁, events⟩) (source : Source)
    (n : Nat) :
    (∀ s ending, EndsAfterSteps ⟨source, log, {}⟩ d₁ s n ending →
        Leaves (run ⟨source, log, {}⟩ d₁ s) ending (later ⟨source, log, {}⟩ d₁ n).1
          (later ⟨source, log, {}⟩ d₁ n).2
          ((steps ⟨source, log, {}⟩ d₁ n).flatMap (·.events))) ∧
      TalliesAgree log d₁ (source.replies n) (steps ⟨source, log, {}⟩ d₁ n)
        (later ⟨source, log, {}⟩ d₁ n).1 (later ⟨source, log, {}⟩ d₁ n).2 := by
  have hsound : d₁.Sound := by
    have h : (LogFile.start d path verify schema).disk.Sound := LogFile.sound_start hd
    rwa [hstart] at h
  have hresult : (LogFile.start d path verify schema).result = .ok log := by rw [hstart]
  have hrows := LogFile.rows_of_start_eq_ok hresult
  obtain ⟨rfl, -, hopen⟩ := LogFile.of_start_eq_ok hresult
  rw [hstart] at hopen
  refine ⟨fun s ending h => ?_, ?_⟩
  · obtain ⟨hending, hcounts, hlog, hdisk, hlines⟩ := runFrom_eq_steps h
    exact ⟨hending, hcounts, hlog, hdisk, (lineEvents_startEvent ..).trans hlines⟩
  · exact ((Tallied.start source log d₁).later n).talliesAgree hrows hopen hsound
      (filterMap_result_steps ..) (lineEvents_steps ..)

/-- A run that is told to stop after a row and an idle read, and one that fails at that point. -/
theorem run_eq_steps_of_two_reads :
    Disk.empty.Sound ∧ ∃ log d₁ events source,
      source =
        .replayed [.line "\x7b\"pf\":-0.5\x7d", .idle, .failed (.disconnected "port")] "script" ∧
      LogFile.start Disk.empty "log.csv" true ⟨["pf"]⟩ = ⟨.ok log, d₁, events⟩ ∧
      Leaves (run ⟨source, log, {}⟩ d₁ (.afterReads 2)) .stopped (later ⟨source, log, {}⟩ d₁ 2).1
        (later ⟨source, log, {}⟩ d₁ 2).2 ((steps ⟨source, log, {}⟩ d₁ 2).flatMap (·.events)) ∧
      Leaves (run ⟨source, log, {}⟩ d₁ .never) (.failed (.disconnected "port"))
        (later ⟨source, log, {}⟩ d₁ 2).1 (later ⟨source, log, {}⟩ d₁ 2).2
        ((steps ⟨source, log, {}⟩ d₁ 2).flatMap (·.events)) ∧
      TalliesAgree log d₁ (source.replies 2) (steps ⟨source, log, {}⟩ d₁ 2)
        (later ⟨source, log, {}⟩ d₁ 2).1 (later ⟨source, log, {}⟩ d₁ 2).2 ∧
      (later ⟨source, log, {}⟩ d₁ 2).1.counts = ⟨1, 1, 0, 0, 1⟩ ∧
      (later ⟨source, log, {}⟩ d₁ 2).2.read "log.csv" =
        .ok [0x70, 0x66, 0x0D, 0x0A, 0x2D, 0x30, 0x2E, 0x35, 0x0D, 0x0A] := by
  have hstart : LogFile.start Disk.empty "log.csv" true ⟨["pf"]⟩ =
      ⟨.ok ⟨"log.csv", ⟨["pf"]⟩, 0, 0⟩,
        ⟨["home"], [(["home"], .directory), (["home", "log.csv"], .file 0)],
          [[0x70, 0x66, 0x0D, 0x0A]]⟩,
        [LogFile.tell .info "Created log file log.csv with header"]⟩ := rfl
  obtain ⟨hagree, htallies⟩ := run_eq_steps Disk.Sound.empty hstart
    (.replayed [.line "\x7b\"pf\":-0.5\x7d", .idle, .failed (.disconnected "port")] "script") 2
  refine ⟨Disk.Sound.empty, _, _, _, _, rfl, hstart, hagree _ _ ⟨?_, ?_, rfl⟩,
    hagree _ _ ⟨?_, ?_, _, rfl, rfl⟩, htallies, ?_, ?_⟩
  · decide +kernel
  · decide +kernel
  · decide +kernel
  · decide +kernel
  · decide +kernel
  · decide +kernel

end Recorder

end TelemetryLog
