import TelemetryLog.Proofs.Recorder.Rows

/-!
# Step after step

A recorder can be driven one step at a time (`Recorder.steps`), also after a step that failed.
Three tallies are kept along the way: the counts, the number of rows that the log has been given,
and the file itself.

What a step does depends on what was read and on nothing else (`outcomeOf`, `recordOf`), so the
tallies are those of what was heard, whatever the order of lines, idle calls and failures: that is
`Tallied`, which one step preserves and which therefore holds after any number of them.

## How it goes

A reply is a line, nothing, or a failure.  `outcomeOf` says what is done with it, and the counts are
how often each outcome comes up in a list of outcomes (`Counts.ofOutcomes`).  That is a fact about a
list and does not depend on its order, so the sums that the counts must satisfy are proved once for
lists (`lines_ofOutcomes`, `idle_add_lines_ofOutcomes`) and hold of every recorder from then on.

A step that fails changes the source and nothing else, and its reply has no outcome and no record.
So a list of replies may have failures anywhere; they drop out of every tally.  This is what makes
statements about steps that go on after an error no harder than others.

The file is followed as bytes, by `Disk.append` of the rows of the records.  What these bytes look
like is put into relations only where the tallies are stated, in `Proofs.Recorder.Agreement`.
-/

set_option autoImplicit false

namespace TelemetryLog

open Device (Channel)
open Device.Channel (Reply)
open LogFile (rowOf)

/-! ## Reading again and again -/

namespace Source

/-- One call that nobody stops. -/
def read (s : Source) : Read := s.readUntil none

/-- The source after `n` calls. -/
def later (s : Source) : Nat → Source
  | 0 => s
  | n + 1 => s.read.source.later n

/-- What the first `n` calls answer. -/
def replies (s : Source) : Nat → List Reply
  | 0 => []
  | n + 1 => s.read.reply :: s.read.source.replies n

/-- The time that the first `n` calls take together. -/
def clock (s : Source) : Nat → Nat
  | 0 => 0
  | n + 1 => s.read.elapsed + s.read.source.clock n

theorem read_ne_stopped (s : Source) : s.read.reply ≠ .stopped := by
  match s with
  | .replayed [] name => exact nofun
  | .replayed (r :: rs) name => cases r <;> exact nofun
  | .device c => exact c.read_ne_stopped

end Source

/-! ## What was heard

A step is described by the reply that it got.  `outcomeOf` sorts replies as the recorder sorts
lines, and counting the outcomes in a list gives the counts that a recorder should have. -/

/-- What is done with a reply; a failure is not dealt with. -/
def outcomeOf : Reply → Option Outcome
  | .line text =>
    match Line.read text with
    | .chatter => some .chatter
    | .malformed => some .malformed
    | .payload _ => some .logged
  | .idle => some .idle
  | .failed _ => none
  | .stopped => none

/-- How often each outcome is in a list. -/
def Counts.ofOutcomes (os : List Outcome) : Counts :=
  ⟨os.count .idle, os.countP (· ≠ .idle), os.count .chatter, os.count .malformed,
    os.count .logged⟩

namespace Counts

theorem add_ofOutcomes (os : List Outcome) (o : Outcome) :
    (ofOutcomes os).add o = ofOutcomes (os ++ [o]) := by
  cases o <;> simp [add, ofOutcomes]

/-- Every outcome but the idle one is that of a line. -/
theorem lines_ofOutcomes (os : List Outcome) :
    (ofOutcomes os).lines =
      (ofOutcomes os).chatter + (ofOutcomes os).malformed + (ofOutcomes os).logged := by
  simp only [ofOutcomes]
  induction os with
  | nil => rfl
  | cons o os ih => cases o <;> simp at ih ⊢ <;> omega

theorem idle_add_lines_ofOutcomes (os : List Outcome) :
    (ofOutcomes os).idle + (ofOutcomes os).lines = os.length := by
  rw [List.length_eq_countP_add_countP (· == Outcome.idle)]
  simp [ofOutcomes, List.count]

end Counts

/-- Just the lines that carry an object become rows. -/
theorem count_logged_eq_length (schema : Schema) (replies : List Reply) :
    (replies.filterMap outcomeOf).count .logged = (replies.filterMap (recordOf schema)).length := by
  induction replies with
  | nil => rfl
  | cons r rs ih =>
    cases r with
    | line text => cases hline : Line.read text <;> simp [outcomeOf, recordOf, hline, ih]
    | idle => exact (List.count_cons_of_ne (by decide)).trans ih
    | failed fault =>
      rw [List.filterMap_cons_none rfl, List.filterMap_cons_none rfl, ih]
    | stopped => rw [List.filterMap_cons_none rfl, List.filterMap_cons_none rfl, ih]

namespace Recorder

/-! ## Steps -/

/-- What comes of `n` steps, whether they fail or not. -/
def steps (r : Recorder) (d : Disk) : Nat → List Step
  | 0 => []
  | n + 1 => r.step d :: (r.step d).recorder.steps (r.step d).disk n

/-- The recorder and the disk after `n` steps. -/
def later (r : Recorder) (d : Disk) : Nat → Recorder × Disk
  | 0 => (r, d)
  | n + 1 => (r.step d).recorder.later (r.step d).disk n

/-- What a step does: it deals with a line or with the lack of one, or the read fails and nothing
but the source changes. -/
theorem step_cases (r : Recorder) (d : Disk) :
    (∃ fault, r.source.read.reply = .failed fault ∧
        r.step d = ⟨.error fault, { r with source := r.source.read.source }, d,
          r.source.read.elapsed, r.source.read.events.map .tell⟩) ∨
      ∃ line : Option String, r.source.read.reply = line.elim .idle .line ∧
        r.step d = r.stepWith d r.source.read line := by
  have hne := r.source.read_ne_stopped
  unfold step
  rw [← Source.read]
  cases hreply : r.source.read.reply with
  | line text => exact .inr ⟨some text, rfl, by simp only [hreply]⟩
  | idle => exact .inr ⟨none, rfl, by simp only [hreply]⟩
  | failed fault => exact .inl ⟨fault, rfl, by simp only [hreply]⟩
  | stopped => exact absurd hreply hne

/-- A read that does not fail is dealt with. -/
theorem step_of_reply {r : Recorder} {line : Option String}
    (h : r.source.read.reply = line.elim .idle .line) (d : Disk) :
    r.step d = r.stepWith d r.source.read line := by
  rcases r.step_cases d with ⟨fault, hreply, -⟩ | ⟨line', hreply, hstep⟩
  · rw [hreply] at h
    cases line <;> cases h
  · have hline : line' = line := by
      rw [hreply] at h
      cases line <;> cases line' <;> simp_all
    rw [hstep, hline]

theorem step_source (r : Recorder) (d : Disk) :
    (r.step d).recorder.source = r.source.read.source := by
  rcases r.step_cases d with ⟨fault, -, h⟩ | ⟨line, -, h⟩
  · rw [h]
  · rw [h]
    rfl

theorem later_source (r : Recorder) (d : Disk) (n : Nat) :
    (r.later d n).1.source = r.source.later n := by
  induction n generalizing r d with
  | zero => rfl
  | succ n ih => rw [later, ih, step_source, Source.later]

/-- A step fails just if its read does, for the same reason. -/
theorem result_step_eq_error_iff {r : Recorder} {d : Disk} {fault : Fault} :
    (r.step d).result = .error fault ↔ r.source.read.reply = .failed fault := by
  rcases r.step_cases d with ⟨fault', hreply, hstep⟩ | ⟨line, hreply, hstep⟩
  · rw [hstep, hreply, Except.error.injEq, Reply.failed.injEq]
  · rw [hstep, hreply]
    cases line <;> exact ⟨nofun, nofun⟩

/-- A step that fails changes neither the counts nor the log, nor anything on the disk. -/
theorem step_of_error {r : Recorder} {d : Disk} {fault : Fault}
    (h : (r.step d).result = .error fault) :
    (r.step d).recorder.counts = r.counts ∧ (r.step d).recorder.log = r.log ∧
      (r.step d).disk = d := by
  rcases r.step_cases d with ⟨fault', -, hstep⟩ | ⟨line, -, hstep⟩
  · rw [hstep]
    exact ⟨rfl, rfl, rfl⟩
  · rw [hstep] at h
    cases h

/-- Dealing with a line, or with the lack of one, does what the reply asks for. -/
theorem outcome_handle (log : LogFile) (d : Disk) (line : Option String) :
    outcomeOf (line.elim .idle .line) = some (handle log d line).outcome := by
  cases line with
  | none => rfl
  | some text =>
    simp only [handle, plan, Option.elim, outcomeOf]
    cases Line.read text <;> rfl

/-- What a step does depends on what was read, and a failure is as good as nothing. -/
theorem step_spec (r : Recorder) (d : Disk) :
    (r.step d).result.toOption = outcomeOf r.source.read.reply ∧
      (r.step d).recorder.counts = (outcomeOf r.source.read.reply).elim r.counts r.counts.add ∧
      (r.step d).recorder.log =
        { r.log with
          rows := r.log.rows + (recordOf r.log.schema r.source.read.reply).toList.length } ∧
      (r.step d).disk =
        d.append r.log.number
          ((recordOf r.log.schema r.source.read.reply).toList.flatMap rowOf) := by
  rcases r.step_cases d with ⟨fault, hreply, hstep⟩ | ⟨line, hreply, hstep⟩
  · rw [hstep, hreply]
    exact ⟨rfl, rfl, rfl, (d.append_nil _).symm⟩
  · obtain ⟨hlog, hdisk⟩ := handle_eq r.log d line
    rw [hstep, hreply, outcome_handle r.log d line]
    exact ⟨rfl, rfl, hlog, hdisk⟩

/-- The outcomes of the steps are those of what was heard. -/
theorem filterMap_result_steps (r : Recorder) (d : Disk) (n : Nat) :
    (r.steps d n).filterMap (·.result.toOption) = (r.source.replies n).filterMap outcomeOf := by
  induction n generalizing r d with
  | zero => rfl
  | succ n ih =>
    rw [steps, Source.replies, List.filterMap_cons, List.filterMap_cons, ih, step_source,
      (r.step_spec d).1]

/-! ## Tallies

The disk is that of the beginning with bytes at the end of one file, which says at once that no
other file has changed. -/

/-- The recorder began with this log and no counts, on a disk like this, and this is what it has
heard since. -/
structure Tallied (log : LogFile) (d₀ : Disk) (heard : List Reply) (r : Recorder) (d : Disk) :
    Prop where
  /-- Each count is the number of replies of its kind. -/
  counts_eq : r.counts = Counts.ofOutcomes (heard.filterMap outcomeOf)
  /-- The log has been given as many rows as there were objects. -/
  log_eq : r.log = { log with rows := log.rows + (heard.filterMap (recordOf log.schema)).length }
  /-- These rows are at the end of its file, and nothing else has changed. -/
  disk_eq : d = d₀.append log.number ((heard.filterMap (recordOf log.schema)).flatMap rowOf)

namespace Tallied

variable {log : LogFile} {d₀ d : Disk} {heard : List Reply} {r : Recorder}

theorem start (source : Source) (log : LogFile) (d : Disk) :
    Tallied log d [] ⟨source, log, {}⟩ d := ⟨rfl, rfl, (d.append_nil _).symm⟩

/-- **A step keeps the tallies.** -/
theorem step (h : Tallied log d₀ heard r d) :
    Tallied log d₀ (heard ++ [r.source.read.reply]) (r.step d).recorder (r.step d).disk := by
  obtain ⟨hcounts, hlog, hdisk⟩ := h
  obtain ⟨-, hcounts', hlog', hdisk'⟩ := r.step_spec d
  rw [hlog] at hlog' hdisk'
  refine ⟨?_, ?_, ?_⟩
  · rw [hcounts', hcounts, List.filterMap_append]
    cases houtcome : outcomeOf r.source.read.reply with
    | none => simp [houtcome]
    | some o => simp [houtcome, Counts.add_ofOutcomes]
  · rw [hlog', List.filterMap_append, List.length_append, ← Nat.add_assoc]
    cases hrecord : recordOf log.schema r.source.read.reply <;> simp [hrecord]
  · rw [hdisk', hdisk, Disk.append_append, List.filterMap_append, List.flatMap_append]
    cases hrecord : recordOf log.schema r.source.read.reply <;> simp [hrecord]

/-- The tallies are right after any number of steps. -/
theorem later (h : Tallied log d₀ heard r d) (n : Nat) :
    Tallied log d₀ (heard ++ r.source.replies n) (r.later d n).1 (r.later d n).2 := by
  induction n generalizing heard r d with
  | zero => rwa [Source.replies, List.append_nil]
  | succ n ih =>
    have hrest := ih h.step
    rw [step_source, List.append_assoc] at hrest
    exact hrest

end Tallied

end Recorder
end TelemetryLog
