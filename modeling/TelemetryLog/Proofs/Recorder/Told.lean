import Mathlib.Data.List.Forall2
import TelemetryLog.Proofs.Line.Readings
import TelemetryLog.Proofs.Recorder.Agreement

/-!
# What is told is what was written

A row is told of by two of its texts, which are found by name in the record, while the file has them
by position.  Both are the same because columns of one name have one value (`IsFieldOf`), and an
event comes right behind its row (`InTurn`); so at every moment of a run the events are those of the
rows that are in the file by then, but for the last one perhaps (`run_tells_rows`).

## What is here

* `IsFieldOf` — what a column has, by its name.
* `InTurn` — rows and their events come in turn; `InTurn.rowEvents_of_prefix` is what that means at
  any moment.
* `Leads` — where deeds lead, which is proved for a step and from that for a run.
* `run_tells_rows` — the main statement.

## How it goes

A run leaves a list of deeds, adding a row or telling something, and the moments of the run are the
first parts of that list.  `InTurn` describes such lists: anything may be told that is not about a
row, and where a row is added the event of that very row is next.  A step leads from one log and
disk to another by deeds in turn, and such pieces can be put together (`Leads.append`), so a run
does too; this is the induction along the recursion of a run.

At any moment, then, the deeds so far are in turn but for a last row that has not been told of, and
`performAll_eq` says what the file holds by then: what was there, and the rows so far.

In the other direction it must be known which rows they are.  `exists_added_runFrom` says that the
records that were added are those of what was read, and that all reads are counted, so the rows are
those of `RowsHeard` and the bytes those of `Csv.RowsText`, as in `Proofs.Recorder.Rows`.  Events
are related to rows by their texts (`TellsOf`): the event says what stands in the row in every
column named `timestamp` and in every column named `voltage`, and nothing where there is none.

Events are looked at before any filter.  Whether an event is printed at all depends on the filter,
and that is none of the recorder's business.
-/

set_option autoImplicit false

namespace TelemetryLog

open LogFile (rowOf)

/-! ## Fields by name

A message asks a record for two fields by name, and the row has them by place.  Where a name occurs
twice the first place counts for the message; the row has the same text in both. -/

/-- The text stands in every column of this name in a row; it is empty if there is none. -/
structure IsFieldOf (schema : Schema) (name : String) (row : List String) (text : String) :
    Prop where
  /-- It stands in every column of the name. -/
  column : ∀ i : Nat, schema.names[i]? = some name → row[i]? = some text
  /-- It is empty if there is no such column. -/
  no_column : name ∉ schema.names → text = ""

namespace Record

variable (p : Payload) {schema : Schema} {name : String}

theorem get?_ofPayload_of_mem (h : name ∈ schema.names) :
    (ofPayload p schema).get? name = p.get? name := by
  cases hindex : schema.index? name with
  | none => exact absurd rfl (ne_of_beq_false (List.findIdx?_eq_none_iff.1 hindex name h))
  | some i =>
    obtain ⟨hlt, hname, -⟩ := List.findIdx?_eq_some_iff_getElem.1 hindex
    rw [get?, show (ofPayload p schema).schema.index? name = some i from hindex]
    simp [ofPayload, hlt, eq_of_beq hname]

theorem get?_ofPayload_of_not_mem (h : name ∉ schema.names) :
    (ofPayload p schema).get? name = none := by
  have hindex : schema.index? name = none :=
    List.findIdx?_eq_none_iff.2 fun x hx => beq_false_of_ne fun heq => h (heq ▸ hx)
  rw [get?, show (ofPayload p schema).schema.index? name = none from hindex, Option.bind_none]

/-- The text that is found by name is the one in every column of the name. -/
theorem isFieldOf_fieldText (schema : Schema) (name : String) :
    IsFieldOf schema name (ofPayload p schema).fields ((ofPayload p schema).fieldText name) := by
  refine ⟨fun i hi => ?_, fun hname => ?_⟩
  · rw [Line.fields_getElem? hi, fieldText, get?_ofPayload_of_mem p (List.mem_of_getElem? hi)]
  · rw [fieldText, get?_ofPayload_of_not_mem p hname]
    rfl

end Record

/-! ## Deeds

The row events among what is told, and the records among what is done, are two lists that are read
off the same deeds. -/

/-- Does the event tell of a row? -/
def isRowEvent (e : Event) : Bool :=
  e.origin == .ingest && "[LOGGED] ".toList.isPrefixOf e.text.toList

/-- What is told of rows among some events. -/
def rowEvents (events : List Event) : List Event := events.filter isRowEvent

theorem isRowEvent_eq_false {events : List Event} (h : lineEvents events = []) :
    ∀ e ∈ events, isRowEvent e = false := by
  intro e he
  have hline := List.filter_eq_nil_iff.1 h e he
  simp only [isLineEvent, Bool.and_eq_true, Bool.or_eq_true, not_and, not_or] at hline
  rw [isRowEvent, Bool.and_eq_false_imp]
  exact fun horigin => Bool.eq_false_iff.2 (hline horigin).1

theorem isRowEvent_loggedEvent (record : Record) :
    isRowEvent (Recorder.loggedEvent record) = true := by
  simp [isRowEvent, Recorder.loggedEvent, Recorder.tell]

namespace Deed

/-- The record that is added if this is done. -/
def record? : Deed → Option Record
  | add record => some record
  | tell _ => none

/-- The records that are added in the course of deeds, in order. -/
def added (deeds : List Deed) : List Record := deeds.filterMap record?

@[simp]
theorem added_add (record : Record) (deeds : List Deed) :
    added (add record :: deeds) = record :: added deeds := rfl

@[simp]
theorem added_tell (event : Event) (deeds : List Deed) :
    added (tell event :: deeds) = added deeds := rfl

@[simp]
theorem added_append (deeds more : List Deed) :
    added (deeds ++ more) = added deeds ++ added more := List.filterMap_append

@[simp]
theorem added_map_tell (events : List Event) : added (events.map tell) = [] := by
  rw [added, List.filterMap_map]
  exact List.filterMap_none events

/-- Deeds put the rows of what they add at the end of the file, and change nothing else. -/
theorem performAll_eq (deeds : List Deed) (log : LogFile) (d : Disk) :
    performAll deeds (log, d) =
      ({ log with rows := log.rows + (added deeds).length },
        d.append log.number ((added deeds).flatMap rowOf)) := by
  induction deeds generalizing log d with
  | nil => exact congrArg (log, ·) (d.append_nil _).symm
  | cons deed deeds ih =>
    cases deed with
    | tell event => exact ih log d
    | add record =>
      refine (ih (log.append d record).1 (log.append d record).2).trans ?_
      simp only [LogFile.append, added_add, List.length_cons, List.flatMap_cons,
        Disk.append_append, Nat.add_assoc, Nat.add_comm 1]

theorem performAll_append (deeds more : List Deed) (start : LogFile × Disk) :
    performAll (deeds ++ more) start = performAll more (performAll deeds start) :=
  List.foldl_append

theorem performAll_map_tell (events : List Event) (start : LogFile × Disk) :
    performAll (events.map tell) start = start := by
  induction events with
  | nil => rfl
  | cons e events ih => exact ih

end Deed

/-- Every row is told of right after it has been added, and nothing but such a row is told of. -/
inductive InTurn (schema : Schema) : List Deed → Prop
  /-- Nothing has been done. -/
  | nil : InTurn schema []
  /-- Something is told that is not about a row. -/
  | tell {e : Event} {deeds : List Deed} (he : isRowEvent e = false) (h : InTurn schema deeds) :
    InTurn schema (.tell e :: deeds)
  /-- A row is added and told of. -/
  | row (p : Payload) {deeds : List Deed} (h : InTurn schema deeds) :
    InTurn schema (.add (.ofPayload p schema) ::
      .tell (Recorder.loggedEvent (.ofPayload p schema)) :: deeds)

namespace InTurn

variable {schema : Schema} {deeds more done : List Deed}

theorem append (h : InTurn schema deeds) (hmore : InTurn schema more) :
    InTurn schema (deeds ++ more) := by
  induction h with
  | nil => exact hmore
  | tell he _ ih => exact ih.tell he
  | row p _ ih => exact ih.row p

theorem map_tell {events : List Event} (h : ∀ e ∈ events, isRowEvent e = false) :
    InTurn schema (events.map .tell) := by
  induction events with
  | nil => exact .nil
  | cons e events ih =>
    exact .tell (h e List.mem_cons_self) (ih fun e he => h e (List.mem_cons_of_mem _ he))

/-- All that is added are rows of payloads. -/
theorem exists_payload (h : InTurn schema deeds) :
    ∀ record ∈ Deed.added deeds, ∃ p, record = .ofPayload p schema := by
  induction h with
  | nil => exact nofun
  | tell _ _ ih => exact ih
  | row p _ ih => exact List.forall_mem_cons.2 ⟨⟨p, rfl⟩, ih⟩

/-- At the end every row has been told of. -/
theorem rowEvents_eq (h : InTurn schema deeds) :
    rowEvents (Deed.told deeds) = (Deed.added deeds).map Recorder.loggedEvent := by
  induction h with
  | nil => rfl
  | tell he _ ih =>
    rw [Deed.told_tell, Deed.added_tell, ← ih]
    exact List.filter_cons_of_neg (by simp [he])
  | row p _ ih =>
    rw [Deed.told_add, Deed.told_tell, Deed.added_add, Deed.added_tell, List.map_cons, ← ih]
    exact List.filter_cons_of_pos (isRowEvent_loggedEvent _)

/-- At every moment every row that is told of is there, and at most one is there that has not been
told of yet. -/
theorem rowEvents_of_prefix (h : InTurn schema deeds) (hdone : done <+: deeds) :
    ∃ told last, Deed.added done = told ++ last ∧ last.length ≤ 1 ∧
      rowEvents (Deed.told done) = told.map Recorder.loggedEvent := by
  induction h generalizing done with
  | nil =>
    obtain rfl := List.prefix_nil.1 hdone
    exact ⟨[], [], rfl, Nat.zero_le 1, rfl⟩
  | tell he _ ih =>
    rcases List.prefix_cons_iff.1 hdone with rfl | ⟨done, rfl, hrest⟩
    · exact ⟨[], [], rfl, Nat.zero_le 1, rfl⟩
    · obtain ⟨told, last, hadded, hlast, htold⟩ := ih hrest
      exact ⟨told, last, hadded, hlast,
        (List.filter_cons_of_neg (by simp [he])).trans htold⟩
  | row p _ ih =>
    rcases List.prefix_cons_iff.1 hdone with rfl | ⟨done, rfl, hrest⟩
    · exact ⟨[], [], rfl, Nat.zero_le 1, rfl⟩
    rcases List.prefix_cons_iff.1 hrest with rfl | ⟨done, rfl, hrest'⟩
    · -- the moment between a row and its event
      exact ⟨[], [.ofPayload p schema], rfl, Nat.le_refl 1, rfl⟩
    · obtain ⟨told, last, hadded, hlast, htold⟩ := ih hrest'
      refine ⟨.ofPayload p schema :: told, last, ?_, hlast, ?_⟩
      · rw [Deed.added_add, Deed.added_tell, hadded, List.cons_append]
      · rw [Deed.told_add, Deed.told_tell, List.map_cons, ← htold]
        exact List.filter_cons_of_pos (isRowEvent_loggedEvent _)

end InTurn

namespace Recorder

/-! ## Runs

A run is a list of deeds, rows and messages in the order in which they happen.  `Leads` keeps two
things of it: each row is followed by its message before the next row comes, and performing the
deeds leads to the log and the disk that the run leaves. -/

/-- Deeds lead from a log and a disk to others, and tell of the rows in turn. -/
structure Leads (start : LogFile × Disk) (deeds : List Deed) (stop : LogFile × Disk) : Prop where
  /-- The rows are told of in turn. -/
  inTurn : InTurn start.1.schema deeds
  /-- This is where the deeds lead. -/
  performAll_eq : Deed.performAll deeds start = stop

namespace Leads

variable {start middle stop : LogFile × Disk} {deeds more : List Deed}

theorem append (h : Leads start deeds middle) (hmore : Leads middle more stop) :
    Leads start (deeds ++ more) stop := by
  obtain ⟨hturn, hdeeds⟩ := h
  obtain ⟨hturn', hmore⟩ := hmore
  have hschema : middle.1.schema = start.1.schema := by
    obtain ⟨log, d⟩ := start
    rw [← hdeeds, Deed.performAll_eq]
  rw [hschema] at hturn'
  exact ⟨hturn.append hturn', by rw [Deed.performAll_append, hdeeds, hmore]⟩

/-- Telling nothing about lines leads nowhere. -/
theorem map_tell {events : List Event} (h : lineEvents events = []) (start : LogFile × Disk) :
    Leads start (events.map .tell) start :=
  ⟨.map_tell (isRowEvent_eq_false h), Deed.performAll_map_tell events start⟩

theorem of_lineEvents {events : List Event} (hdeeds : deeds = events.map .tell)
    (h : lineEvents (Deed.told deeds) = []) (start : LogFile × Disk) :
    Leads start deeds start := by
  subst hdeeds
  rw [Deed.told_map_tell] at h
  exact .map_tell h start

end Leads

/-- Dealing with what was read adds its row and tells of it, if it has one. -/
theorem leads_handle (log : LogFile) (d : Disk) (line : Option String) :
    Leads (log, d) (handle log d line).deeds
      ((handle log d line).log, (handle log d line).disk) := by
  refine ⟨?_, rfl⟩
  cases line with
  | none => exact .nil
  | some text =>
    simp only [handle, plan]
    cases Line.read text with
    | chatter => exact .nil
    | malformed =>
      have hother : isRowEvent (malformedEvent text) = false := by
        simp [isRowEvent, malformedEvent, tell, List.isPrefixOf_cons_cons]
      exact .tell hother .nil
    | payload p => exact .row p .nil

/-- **A step tells of its row in turn.** -/
theorem leads_stepWith (r : Recorder) (d : Disk) {read : Source.Read}
    (hread : lineEvents read.events = []) (line : Option String) :
    Leads (r.log, d) (r.stepWith d read line).deeds
      ((r.stepWith d read line).recorder.log, (r.stepWith d read line).disk) :=
  (Leads.map_tell hread _).append (leads_handle r.log d line)

/-- What is done in the rest of a run leads to what it leaves. -/
theorem leads_runFrom (r : Recorder) (d : Disk) (s : Shutdown) :
    Leads (r.log, d) (r.runFrom d s).deeds ((r.runFrom d s).log, (r.runFrom d s).disk) := by
  have hread (r : Recorder) (s : Shutdown) := r.source.lineEvents_readUntil s.moment?
  fun_induction runFrom r d s with
  | case1 r d s =>
    exact .of_lineEvents rfl (r.lineEvents_stopRun d 0 (show lineEvents [] = [] from rfl)) _
  | case2 r d s _ read =>
    exact .of_lineEvents rfl (r.lineEvents_stopRun d read.elapsed (hread r s)) _
  | case3 r d s _ read fault =>
    exact .of_lineEvents rfl (r.lineEvents_failRun d r.source s.moment? fault) _
  | case4 r d s _ read text _ step deeds ih =>
    exact (r.leads_stepWith d (hread r s) (some text)).append ih
  | case5 r d s _ read => exact r.leads_stepWith d (hread r s) none
  | case6 r d s _ read _ step _ deeds ih =>
    exact (r.leads_stepWith d (hread r s) none).append ih

theorem leads_run (r : Recorder) (d : Disk) (s : Shutdown) :
    Leads (r.log, d) (r.run d s).deeds ((r.run d s).log, (r.run d s).disk) :=
  (Leads.map_tell (r.lineEvents_startEvent []) _).append (r.leads_runFrom d s)

/-! ### What was read -/

theorem added_stepWith (r : Recorder) (d : Disk) (read : Source.Read) (line : Option String) :
    Deed.added (r.stepWith d read line).deeds =
      (recordOf r.log.schema (line.elim .idle .line)).toList := by
  rw [stepWith, Deed.added_append, Deed.added_map_tell, List.nil_append]
  cases line with
  | none => rfl
  | some text =>
    simp only [handle, plan, Option.elim, recordOf]
    cases Line.read text <;> rfl

/-- What is dealt with is counted. -/
theorem calls_stepWith (r : Recorder) (d : Disk) (read : Source.Read) (line : Option String) :
    (r.stepWith d read line).recorder.counts.idle + (r.stepWith d read line).recorder.counts.lines =
      r.counts.idle + r.counts.lines + 1 := by
  rw [stepWith, after]
  cases (handle r.log d line).outcome with
  | idle => exact Nat.add_right_comm _ _ _
  | _ => rfl

/-- What comes after a read that is neither cut short nor failed. -/
theorem added_stepWith_append (line : Option String) {r : Recorder} {d : Disk} {s : Shutdown}
    (hdue : s.isDue = false) (hreply : (r.source.readUntil s.moment?).reply = line.elim .idle .line)
    {deeds : List Deed} {n : Nat}
    (hrest : Deed.added deeds = ((r.source.readUntil s.moment?).source.replies n).filterMap
      (recordOf (handle r.log d line).log.schema)) :
    Deed.added ((r.stepWith d (r.source.readUntil s.moment?) line).deeds ++ deeds) =
      (r.source.replies (n + 1)).filterMap (recordOf r.log.schema) := by
  have hread : r.source.readUntil s.moment? = r.source.read := by
    have hsource := Shutdown.readUntil_source hdue r.source
    split at hsource
    · rw [hreply] at hsource
      cases line <;> cases hsource
    · exact hsource
  rw [(handle_eq r.log d line).1] at hrest
  rw [Deed.added_append, added_stepWith, hrest, Source.replies, ← hread, hreply]
  cases hrecord : recordOf r.log.schema (line.elim .idle .line) <;> simp [hrecord]

/-- What is added in the rest of a run are the records of what is read in it, and the reads are
counted. -/
theorem exists_added_runFrom (r : Recorder) (d : Disk) (s : Shutdown) :
    ∃ n, (r.runFrom d s).counts.idle + (r.runFrom d s).counts.lines =
        r.counts.idle + r.counts.lines + n ∧
      Deed.added (r.runFrom d s).deeds =
        (r.source.replies n).filterMap (recordOf r.log.schema) := by
  fun_induction runFrom r d s with
  | case1 | case2 | case3 => exact ⟨0, rfl, Deed.added_map_tell _⟩
  | case4 r d s hdue read text hread step deeds ih =>
    obtain ⟨n, hcounts, hadded⟩ := ih
    refine ⟨n + 1, ?_, added_stepWith_append (some text) (by simpa using hdue) hread hadded⟩
    exact hcounts.trans (by rw [r.calls_stepWith]; omega)
  | case5 r d s hdue read hread step =>
    have hadded : Deed.added (step.deeds ++ []) =
        (r.source.replies 1).filterMap (recordOf r.log.schema) :=
      added_stepWith_append none (by simpa using hdue) hread rfl
    exact ⟨1, r.calls_stepWith d read none, by rwa [List.append_nil] at hadded⟩
  | case6 r d s hdue read hread step hw deeds ih =>
    obtain ⟨n, hcounts, hadded⟩ := ih
    refine ⟨n + 1, ?_, added_stepWith_append none (by simpa using hdue) hread hadded⟩
    exact hcounts.trans (by rw [r.calls_stepWith]; omega)

/-! ### What was told -/

/-- The event tells of the row: its two texts are those in the columns of their names. -/
def TellsOf (schema : Schema) (row : List String) (e : Event) : Prop :=
  ∃ ts v, IsFieldOf schema "timestamp" row ts ∧ IsFieldOf schema "voltage" row v ∧
    e = ⟨.info, .ingest, "[LOGGED] ts=" ++ ts ++ " | V=" ++ v⟩

theorem tellsOf_loggedEvent (p : Payload) (schema : Schema) :
    TellsOf schema (Record.ofPayload p schema).fields (loggedEvent (.ofPayload p schema)) :=
  ⟨_, _, Record.isFieldOf_fieldText p schema _, Record.isFieldOf_fieldText p schema _, rfl⟩

/-- A run has put the rows of what it read behind what was in the file, and has told of them, one
after the other. -/
structure TellsRows (source : Source) (log : LogFile) (d : Disk) (run : Run)
    (before : List UInt8) (rows : List (List String)) : Prop where
  /-- This was in the file. -/
  read_before : d.read log.path = .ok before
  /-- The rows are behind it now. -/
  read_eq : ∃ bytes, Csv.RowsText rows bytes ∧ run.disk.read log.path = .ok (before ++ bytes)
  /-- They are what the run has added. -/
  rows_eq : run.log.rows = rows.length
  /-- They are the rows of what was read, in as many calls as were counted. -/
  rows_heard : RowsHeard log.schema (source.replies (run.counts.idle + run.counts.lines)) rows
  /-- The events of rows are theirs, in the same order. -/
  tells : List.Forall₂ (TellsOf log.schema) rows (rowEvents run.events)
  /-- The deeds of the run lead to what it leaves. -/
  performAll_eq : Deed.performAll run.deeds (log, d) = (run.log, run.disk)
  /-- At every moment in between, the rows that have been told of are in the file, and at most one
  more. -/
  moments : ∀ done, done <+: run.deeds → ∃ written bytes, written <+: rows ∧
    Csv.RowsText written bytes ∧
    (Deed.performAll done (log, d)).2.read log.path = .ok (before ++ bytes) ∧
    (rowEvents (Deed.told done)).length ≤ written.length ∧
    written.length ≤ (rowEvents (Deed.told done)).length + 1

/-- What the deeds of a run lead to, if its log has just been opened. -/
theorem Leads.tellsRows {source : Source} {log : LogFile} {d : Disk} {run : Run}
    (h : Leads (log, d) run.deeds (run.log, run.disk)) (hrows : log.rows = 0)
    (hopen : d.openAppend log.path = .ok log.number) (hsound : d.Sound)
    (hheard : Deed.added run.deeds =
      (source.replies (run.counts.idle + run.counts.lines)).filterMap (recordOf log.schema)) :
    TellsRows source log d run (d.bytes log.number)
      ((Deed.added run.deeds).map Record.fields) := by
  obtain ⟨hturn, hperform⟩ := h
  -- what the file holds at any moment, and not only at the end
  have hread (done : List Deed) : (Deed.performAll done (log, d)).2.read log.path =
      .ok (d.bytes log.number ++ (Deed.added done).flatMap rowOf) := by
    rw [Deed.performAll_eq]
    exact Disk.read_append hopen (hsound.of_openAppend hopen) _
  refine ⟨by rw [Disk.read, hopen], ⟨_, Record.rowsText_fields _, ?_⟩, ?_, ?_, ?_, hperform,
    fun done hdone => ?_⟩
  · rw [← hread, hperform]
  · have hlog : run.log.rows = log.rows + (Deed.added run.deeds).length := by
      rw [← show _ = run.log from congrArg Prod.fst hperform, Deed.performAll_eq]
    rw [hlog, hrows, Nat.zero_add, List.length_map]
  · rw [rowsHeard_iff, hheard]
  · rw [Run.events, hturn.rowEvents_eq, List.forall₂_map_left_iff, List.forall₂_map_right_iff,
      List.forall₂_same]
    intro record hrecord
    obtain ⟨p, rfl⟩ := hturn.exists_payload record hrecord
    exact tellsOf_loggedEvent p log.schema
  · obtain ⟨told, last, hadded, hlast, htold⟩ := hturn.rowEvents_of_prefix hdone
    refine ⟨(Deed.added done).map Record.fields, _, ?_, Record.rowsText_fields _, hread done, ?_⟩
    · exact (hdone.filterMap Deed.record?).map Record.fields
    · rw [htold, hadded, List.length_map, List.length_map, List.length_append]
      omega

/-- **What is told is what was written.**  A run of a log that has just been opened tells of the
rows it adds and of no others, one event for each and in the same order; an event comes only after
its row is in the file, and its texts are those that the row has in every column of the name.  In
general a record has under the name of a column what its row has in that column. -/
theorem run_tells_rows {d d₁ : Disk} (hd : d.Sound) {path : String} {verify : Bool}
    {schema : Schema} {log : LogFile} {events : List Event}
    (hstart : LogFile.start d path verify schema = ⟨.ok log, d₁, events⟩) (source : Source)
    (s : Shutdown) :
    log.path = path ∧ log.schema = schema ∧
      (∃ before rows, TellsRows source log d₁ (run ⟨source, log, {}⟩ d₁ s) before rows) ∧
      ∀ (p : Payload) (schema' : Schema) (i : Nat) (name : String),
        schema'.names[i]? = some name →
          (Record.ofPayload p schema').fields[i]? =
            some ((Record.ofPayload p schema').fieldText name) := by
  have hsound : d₁.Sound := by
    have h : (LogFile.start d path verify schema).disk.Sound := LogFile.sound_start hd
    rwa [hstart] at h
  have hresult : (LogFile.start d path verify schema).result = .ok log := by rw [hstart]
  have hrows := LogFile.rows_of_start_eq_ok hresult
  obtain ⟨rfl, rfl, hopen⟩ := LogFile.of_start_eq_ok hresult
  rw [hstart] at hopen
  obtain ⟨n, hcounts, hadded⟩ := exists_added_runFrom ⟨source, log, {}⟩ d₁ s
  obtain rfl := hcounts.trans (Nat.zero_add n)
  have htells := (leads_run ⟨source, log, {}⟩ d₁ s).tellsRows hrows hopen hsound hadded
  exact ⟨rfl, rfl, ⟨_, _, htells⟩,
    fun p schema' i name => (Record.isFieldOf_fieldText p schema' name).column i⟩

/-- Two rows of two columns of one name, and a line between them that has no row. -/
theorem run_tells_rows_of_two_voltages :
    Disk.empty.Sound ∧ ∃ log d₁ events source before rows bytes,
      source = .replayed [.line "\x7b\"voltage\":3\x7d", .line "\x7b", .line "\x7b\x7d"] "script" ∧
      before = "voltage,voltage\r\n".toUTF8.data.toList ∧ rows = [["3", "3"], ["", ""]] ∧
      bytes = "3,3\r\n,\r\n".toUTF8.data.toList ∧
      LogFile.start Disk.empty "log.csv" true ⟨["voltage", "voltage"]⟩ = ⟨.ok log, d₁, events⟩ ∧
      TellsRows source log d₁ (run ⟨source, log, {}⟩ d₁ .never) before rows ∧
      (run ⟨source, log, {}⟩ d₁ .never).disk.read "log.csv" = .ok (before ++ bytes) := by
  obtain ⟨log, hlog⟩ : ∃ log : LogFile, log = ⟨"log.csv", ⟨["voltage", "voltage"]⟩, 0, 0⟩ :=
    ⟨_, rfl⟩
  obtain ⟨d₁, hd₁⟩ : ∃ d₁ : Disk, d₁ =
      ⟨["home"], [(["home"], .directory), (["home", "log.csv"], .file 0)],
        [LogFile.headerRow ⟨["voltage", "voltage"]⟩]⟩ := ⟨_, rfl⟩
  obtain ⟨source, hsource⟩ : ∃ source : Source, source =
      .replayed [.line "\x7b\"voltage\":3\x7d", .line "\x7b", .line "\x7b\x7d"] "script" := ⟨_, rfl⟩
  have hstart : LogFile.start Disk.empty "log.csv" true ⟨["voltage", "voltage"]⟩ =
      ⟨.ok log, d₁, [LogFile.tell .info "Created log file log.csv with header"]⟩ := by
    subst hlog hd₁
    rfl
  -- the fourth call finds the device gone
  have hends : EndsAfterSteps ⟨source, log, {}⟩ d₁ .never 3 (.failed (.disconnected "script")) := by
    subst hlog hd₁ hsource
    exact ⟨by decide +kernel, by decide +kernel, _, rfl, rfl⟩
  have hcounts : (run ⟨source, log, {}⟩ d₁ .never).counts = ⟨0, 3, 1, 0, 2⟩ :=
    (runFrom_eq_steps hends).counts_eq.trans (by subst hlog hd₁ hsource; decide +kernel)
  obtain ⟨-, -, ⟨before, rows, htells⟩, -⟩ :=
    run_tells_rows Disk.Sound.empty hstart source .never
  obtain ⟨bytes, htext, hread⟩ := htells.read_eq
  have hheard := htells.rows_heard
  rw [hcounts] at hheard
  subst hlog hd₁
  obtain rfl : rows = [["3", "3"], ["", ""]] :=
    (rowsHeard_iff.1 hheard).trans (by subst hsource; decide +kernel)
  refine ⟨Disk.Sound.empty, _, _, _, source, before, _, bytes, hsource, ?_, rfl, ?_, hstart, htells,
    hread⟩
  · exact (Except.ok.inj htells.read_before).symm.trans (by decide +kernel)
  · exact (Csv.rowsText_iff.1 htext).trans (by decide +kernel)

end Recorder
end TelemetryLog
