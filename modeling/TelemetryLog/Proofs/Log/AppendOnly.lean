import TelemetryLog.Proofs.Log.Columns
import TelemetryLog.Proofs.Log.Start

/-!
# Files only grow

Here any number of logs are opened, added to and closed in any order, on any paths and with any
columns, while headers are made and verified in between.  A `Desk` is where things stand: the disk,
all the logs that have been opened, and a list of the rows that have been added.

A call does one of three things to the files (`Desk.Effect`): it adds one row to the file of its
log, it makes a file where nothing was and writes the header to it, or it changes no file.  So
whatever fails, files only grow, and a file that has a header of ours has just one.

## What is said without the program

Which bytes a row is, and which texts it has, is said by relations in which the program does not
occur: `Record.IsRow` and `Csv.RowText` for the row of a record, and `Csv.RowText` of the names of
the columns for a header.  `Effect` and `Accounts` are stated with these.  A program that appended
something else, or nothing, would not satisfy them, although it might well agree with itself.

## How it goes

* **One call.**  There is one equation for each way in which a call can go (`step_start`,
  `step_append` and so on), and the effect of a call is read off these (`effect`).  A failed call is
  always one that changes no file; opening a log may have made directories before it failed.
* **One invariant.**  `Accounts d s` says that what has become of the disk `d` is accounted for by
  the desk `s`: every log has a file, the additions are those of the logs, each log has counted its
  own, and each file holds what it held at first, or one header, followed by the rows of the
  additions to it and nothing else.  There is one lemma for each thing that can happen to a desk
  (`more`, `made`, `opened`, `row`, `closed`), and `step` puts them together.
* **Many calls.**  `Since` adds that every name of a file has its contents, which makes sure that a
  log that is opened has a file; from there on it is an induction over the calls.

Numbers of files are never used again, and logs are never removed from the desk but only closed, so
an addition can name both by number for good.

`Accounts` is kept apart from `Since` because a session on one file can do without the soundness of
the rest of the disk, and `Proofs.Log.Sessions` follows such a session on a desk.

## What is not here

A record is added only if it has as many columns as the log; the program asserts that, and a desk
refuses such a call, which then changes nothing.  Removing files, and writing to them by other
means, are no calls.  Faults of an open file do not exist (see `LogFile`).
-/

set_option autoImplicit false

namespace TelemetryLog

open Disk (MoreDirectories Extends)
open LogFile (headerRow rowOf)

/-- One thing that is done with logs. -/
inductive Call where
  /-- A file is made with its header, if nothing is there. -/
  | ensureHeader (path : String) (schema : Schema)
  /-- The header of a file is compared with the schema. -/
  | verifyHeader (path : String) (schema : Schema)
  /-- A log is opened, after its header has been verified or not. -/
  | start (path : String) (verify : Bool) (schema : Schema)
  /-- A record is added to one of the logs that have been opened. -/
  | append (index : Nat) (record : Record)
  /-- One of the logs is closed. -/
  | close (index : Nat)

/-- What a call answers. -/
inductive Answer where
  /-- The header has been made, or there was something already. -/
  | ensured (made : Bool)
  /-- The header is the right one. -/
  | verified
  /-- The log is open. -/
  | opened
  /-- The record has been added. -/
  | appended
  /-- There is no open log of this index, or the record is not one for its columns. -/
  | refused
  /-- The log is closed. -/
  | closed
  /-- It cannot be done. -/
  | failed (fault : Fault)
deriving DecidableEq

/-- A log that has been opened. -/
structure Handle where
  /-- The log. -/
  log : LogFile
  /-- Is it still open? -/
  isOpen : Bool

/-- A row that has been added. -/
structure Addition where
  /-- The index of the log that it was added through. -/
  index : Nat
  /-- The file that it was added to. -/
  number : Nat
  /-- Its record. -/
  record : Record

/-- Where things stand. -/
structure Desk where
  /-- The disk. -/
  disk : Disk
  /-- All the logs that have been opened, in order. -/
  handles : List Handle := []
  /-- All the rows that have been added, in order. -/
  added : List Addition := []

namespace Desk

/-- After an attempt to make a header. -/
def ensured (s : Desk) : Attempt Bool → Desk × Answer
  | ⟨.ok made, disk, _⟩ => ({ s with disk := disk }, .ensured made)
  | ⟨.error e, disk, _⟩ => ({ s with disk := disk }, .failed e)

/-- After an attempt to open a log. -/
def started (s : Desk) : Attempt LogFile → Desk × Answer
  | ⟨.ok log, disk, _⟩ => ({ s with disk := disk, handles := s.handles ++ [⟨log, true⟩] }, .opened)
  | ⟨.error e, disk, _⟩ => ({ s with disk := disk }, .failed e)

/-- Adds a record, if the log is open and the record has as many columns. -/
def add (s : Desk) (index : Nat) (record : Record) : Desk × Answer :=
  match s.handles[index]? with
  | some ⟨log, true⟩ =>
    if record.size = log.schema.names.length then
      (⟨(log.append s.disk record).2, s.handles.set index ⟨(log.append s.disk record).1, true⟩,
        s.added ++ [⟨index, log.number, record⟩]⟩, .appended)
    else (s, .refused)
  | _ => (s, .refused)

/-- Makes one call. -/
def step (s : Desk) : Call → Desk × Answer
  | .ensureHeader path schema => s.ensured (LogFile.ensureHeader s.disk path schema)
  | .verifyHeader path schema =>
    match LogFile.verifyHeader s.disk path schema with
    | .ok () => (s, .verified)
    | .error e => (s, .failed e)
  | .start path verify schema => s.started (LogFile.start s.disk path verify schema)
  | .append index record => s.add index record
  | .close index =>
    ({ s with handles := s.handles.modify index ({ · with isOpen := false }) }, .closed)

/-- Makes one call after the other. -/
def run (s : Desk) (calls : List Call) : Desk := calls.foldl (fun s c => (s.step c).1) s

theorem run_append (s : Desk) (as bs : List Call) : s.run (as ++ bs) = (s.run as).run bs :=
  List.foldl_append

/-! ## What a call does to the files

`Made` is the relation between a disk and the same disk with a new file, and each kind of effect
names the call and its answer that go with it, so that nothing is left open about which calls can
have it. -/

/-- The one disk is the other with a new file, which holds a header; there may be new directories as
well. -/
structure Made (d d' : Disk) (path : String) (schema : Schema) : Prop where
  /-- Nothing was at its path. -/
  absent : ¬d.IsThere path
  /-- It is a new file, and its path leads to it. -/
  openAppend_eq : d'.openAppend path = .ok d.contents.length
  /-- It holds one row, which is the names of the columns, and the other files are as they were. -/
  contents_eq : ∃ header, Csv.RowText schema.names header ∧ d'.contents = d.contents ++ [header]
  /-- Relative paths start at the same place. -/
  home_eq : d'.home = d.home
  /-- Every other name that is new is that of a directory. -/
  entries_eq : ∃ (dirs : List (List String)) (names : List String),
    d'.entries = d.entries ++ (dirs.map fun names => (names, .directory)) ++
      [(names, .file d.contents.length)]

/-- What a call does to the files. -/
inductive Effect (s : Desk) (c : Call) : Prop
  /-- One row is added to the file of a log, and nothing else happens on the disk. -/
  | row {index : Nat} {record : Record} {h : Handle} {row : List String} {bs : List UInt8}
      (call_eq : c = .append index record) (answer_eq : (s.step c).2 = .appended)
      (handle_eq : s.handles[index]? = some h) (row_eq : record.IsRow row)
      (text_eq : Csv.RowText row bs)
      (disk_eq : (s.step c).1.disk = s.disk.append h.log.number bs)
      (bytes_eq : (s.step c).1.disk.bytes h.log.number = s.disk.bytes h.log.number ++ bs)
      (added_eq : (s.step c).1.added = s.added ++ [⟨index, h.log.number, record⟩])
  /-- A file is made. -/
  | made {path : String} {schema : Schema}
      (call_eq : (c = .ensureHeader path schema ∧ (s.step c).2 = .ensured true) ∨
        ∃ verify, c = .start path verify schema ∧ (s.step c).2 = .opened)
      (made : Made s.disk (s.step c).1.disk path schema)
      (added_eq : (s.step c).1.added = s.added)
  /-- All files are as they were, and none is made; only opening a log makes directories. -/
  | same (not_appended : (s.step c).2 ≠ .appended) (not_made : (s.step c).2 ≠ .ensured true)
      (directories : MoreDirectories s.disk (s.step c).1.disk)
      (disk_eq : (∀ path verify schema, c ≠ .start path verify schema) →
        (s.step c).1.disk = s.disk)
      (added_eq : (s.step c).1.added = s.added)

theorem made_of_create {d d₁ d' : Disk} (hmore : MoreDirectories d d₁) {path : String}
    {number : Nat} (h : d₁.create path = .ok (number, d')) (schema : Schema) :
    Made d (d'.append number (headerRow schema)) path schema := by
  have hopen := Disk.openAppend_of_create h
  have habsent := Disk.not_isThere_of_create h
  obtain ⟨dirs, hdirs⟩ := hmore.entries
  obtain ⟨p, names, name, -, -, rfl, rfl⟩ := Disk.create_eq_ok h
  refine ⟨fun hthere => habsent (hmore.toExtends.isThere hthere), ?_, ?_, hmore.home, dirs,
    names ++ [name], ?_⟩
  · rw [Disk.openAppend_append, hopen, hmore.contents]
  · refine ⟨headerRow schema, Csv.rowText_iff.2 rfl, ?_⟩
    show (d₁.contents ++ [[]]).modify d₁.contents.length (· ++ headerRow schema) = _
    rw [List.modify_eq_take_cons_drop (by simp), hmore.contents]
    simp
  · rw [← hdirs, ← hmore.contents]
    rfl

/-! ### What each call does -/

section Steps

variable {s : Desk}

theorem step_ensureHeader_of_create {path : String} {number : Nat} {d' : Disk}
    (h : s.disk.create path = .ok (number, d')) (schema : Schema) :
    s.step (.ensureHeader path schema) =
      ({ s with disk := d'.append number (headerRow schema) }, .ensured true) := by
  rw [step, LogFile.ensureHeader, h]
  rfl

theorem step_ensureHeader_of_error {path : String} {e : Disk.Fault}
    (h : s.disk.create path = .error e) (schema : Schema) :
    s.step (.ensureHeader path schema) =
      (s, if e = .taken then .ensured false else .failed (.file e)) := by
  rw [step, LogFile.ensureHeader, h]
  cases e <;> rfl

theorem step_verifyHeader (s : Desk) (path : String) (schema : Schema) :
    ∃ a, s.step (.verifyHeader path schema) = (s, a) ∧ a ≠ .appended ∧ a ≠ .ensured true := by
  rw [step]
  split
  · exact ⟨_, rfl, nofun, nofun⟩
  · exact ⟨_, rfl, nofun, nofun⟩

/-- A log that is opened joins the others, and one that is not leaves them alone. -/
theorem step_start (s : Desk) (path : String) (verify : Bool) (schema : Schema) :
    ∃ opened a, s.step (.start path verify schema) =
        ({ s with
            disk := (LogFile.start s.disk path verify schema).disk
            handles := s.handles ++ opened }, a) ∧
      ((∃ log, (LogFile.start s.disk path verify schema).result = .ok log ∧
          opened = [⟨log, true⟩] ∧ a = .opened) ∨
        ∃ e, (LogFile.start s.disk path verify schema).result = .error e ∧ opened = [] ∧
          a = .failed e) := by
  rw [step]
  generalize LogFile.start s.disk path verify schema = attempt
  obtain ⟨result, disk, events⟩ := attempt
  cases result with
  | ok log => exact ⟨_, _, rfl, .inl ⟨log, rfl, rfl, rfl⟩⟩
  | error e => exact ⟨[], _, by rw [started, List.append_nil], .inr ⟨e, rfl, rfl, rfl⟩⟩

theorem step_append_of_open {index : Nat} {log : LogFile}
    (h : s.handles[index]? = some ⟨log, true⟩) {record : Record}
    (hsize : record.size = log.schema.names.length) :
    s.step (.append index record) =
      (⟨s.disk.append log.number (rowOf record),
        s.handles.set index ⟨{ log with rows := log.rows + 1 }, true⟩,
        s.added ++ [⟨index, log.number, record⟩]⟩, .appended) := by
  rw [step, add, h]
  exact if_pos hsize

/-- A record is added to a log that is open, or nothing happens. -/
theorem step_append (s : Desk) (index : Nat) (record : Record) :
    s.step (.append index record) = (s, .refused) ∨
      ∃ log, s.handles[index]? = some ⟨log, true⟩ ∧
        s.step (.append index record) =
          (⟨s.disk.append log.number (rowOf record),
            s.handles.set index ⟨{ log with rows := log.rows + 1 }, true⟩,
            s.added ++ [⟨index, log.number, record⟩]⟩, .appended) := by
  cases hlog : s.handles[index]? with
  | none => exact .inl (by rw [step, add, hlog])
  | some h =>
    obtain ⟨log, isOpen⟩ := h
    by_cases hsize : record.size = log.schema.names.length
    · cases isOpen with
      | true => exact .inr ⟨log, rfl, step_append_of_open hlog hsize⟩
      | false => exact .inl (by rw [step, add, hlog])
    · refine .inl ?_
      rw [step, add, hlog]
      cases isOpen <;> simp [hsize]

end Steps

section Effects

variable {s : Desk} {c : Call}

/-- A call that does nothing but answer. -/
theorem effect_of_step_eq {a : Answer} (hstep : s.step c = (s, a)) (happended : a ≠ .appended)
    (hmade : a ≠ .ensured true) : Effect s c := by
  refine .same ?_ ?_ ?_ (fun _ => ?_) ?_
  all_goals rw [hstep]
  · exact happended
  · exact hmade
  · exact .refl _

theorem effect_ensureHeader (s : Desk) (path : String) (schema : Schema) :
    Effect s (.ensureHeader path schema) := by
  cases hc : s.disk.create path with
  | ok made =>
    have hstep := step_ensureHeader_of_create hc schema
    refine .made (.inl ⟨rfl, by rw [hstep]⟩) ?_ (by rw [hstep])
    rw [hstep]
    exact made_of_create (.refl _) hc schema
  | error e =>
    refine effect_of_step_eq (step_ensureHeader_of_error hc schema) ?_ ?_
    · split <;> exact nofun
    · split <;> exact nofun

theorem effect_start (s : Desk) (path : String) (verify : Bool) (schema : Schema) :
    Effect s (.start path verify schema) := by
  have hmore : MoreDirectories s.disk (LogFile.withParents s.disk path) :=
    Disk.moreDirectories_makeDirectories _ _
  obtain ⟨opened, a, hstep, ha⟩ := s.step_start path verify schema
  rcases LogFile.start_cases s.disk path verify schema with ⟨number, d', hc, hr, hd⟩ | ⟨hd, -⟩
  · have hopened : a = .opened := by
      rcases ha with ⟨log, -, -, ha⟩ | ⟨e, he, -⟩
      · exact ha
      · rw [hr] at he
        cases he
    refine .made (.inr ⟨verify, rfl, by rw [hstep, hopened]⟩) ?_ (by rw [hstep])
    rw [hstep, hd]
    exact made_of_create hmore hc schema
  · refine .same ?_ ?_ ?_ (fun h => absurd rfl (h path verify schema)) (by rw [hstep])
    · rw [hstep]
      rcases ha with ⟨_, -, -, rfl⟩ | ⟨_, -, -, rfl⟩ <;> exact nofun
    · rw [hstep]
      rcases ha with ⟨_, -, -, rfl⟩ | ⟨_, -, -, rfl⟩ <;> exact nofun
    · rw [hstep, hd]
      exact hmore

theorem effect_append (hlt : ∀ h ∈ s.handles, h.log.number < s.disk.contents.length) (index : Nat)
    (record : Record) : Effect s (.append index record) := by
  rcases s.step_append index record with hstep | ⟨log, hlog, hstep⟩
  · exact effect_of_step_eq hstep nofun nofun
  · refine .row rfl (by rw [hstep]) hlog (Record.isRow_iff.2 rfl) record.rowText_rowOf
      (by rw [hstep]) ?_ (by rw [hstep])
    rw [hstep]
    exact Disk.bytes_append_self (hlt _ (List.mem_of_getElem? hlog)) _

/-- **A call adds one row, or makes one file, or changes no file.** -/
theorem effect (hlt : ∀ h ∈ s.handles, h.log.number < s.disk.contents.length) (c : Call) :
    Effect s c := by
  cases c with
  | ensureHeader path schema => exact effect_ensureHeader s path schema
  | verifyHeader path schema =>
    obtain ⟨a, hstep, happended, hmade⟩ := s.step_verifyHeader path schema
    exact effect_of_step_eq hstep happended hmade
  | start path verify schema => exact effect_start s path verify schema
  | append index record => exact effect_append hlt index record
  | close index => exact .same nofun nofun (.refl _) (fun _ => rfl) rfl

/-- What a path led to it still leads to. -/
theorem Effect.extends (h : Effect s c) : Extends s.disk (s.step c).1.disk := by
  cases h with
  | row _ _ _ _ _ disk_eq _ _ =>
    rw [disk_eq]
    exact Extends.contents _ _
  | made call_eq made added_eq =>
    obtain ⟨dirs, names, hentries⟩ := made.entries_eq
    rw [List.append_assoc] at hentries
    exact Extends.of_entries made.home_eq hentries
  | same _ _ directories _ _ => exact directories.toExtends

/-- A call that fails changes no file and makes none. -/
theorem Effect.directories_of_failed (h : Effect s c) {fault : Fault}
    (hfailed : (s.step c).2 = .failed fault) : MoreDirectories s.disk (s.step c).1.disk := by
  cases h with
  | row _ answer_eq _ _ _ _ _ _ =>
    rw [answer_eq] at hfailed
    cases hfailed
  | made call_eq made added_eq =>
    rcases call_eq with ⟨-, h⟩ | ⟨verify, -, h⟩
    all_goals
      rw [h] at hfailed
      cases hfailed
  | same _ _ directories _ _ => exact directories

section Made

variable {d d' : Disk} {path : String} {schema : Schema} (h : Made d d' path schema)

include h

theorem Made.sound (hd : d.Sound) : d'.Sound := by
  obtain ⟨dirs, names, hentries⟩ := h.entries_eq
  obtain ⟨header, -, hcontents⟩ := h.contents_eq
  rw [List.append_assoc] at hentries
  refine hd.of_entries hentries ?_ ?_ <;> simp [hcontents]

theorem Made.length_eq : d'.contents.length = d.contents.length + 1 := by
  obtain ⟨header, -, hcontents⟩ := h.contents_eq
  rw [hcontents, List.length_append, List.length_singleton]

theorem Made.bytes_self : Csv.RowText schema.names (d'.bytes d.contents.length) := by
  obtain ⟨header, hheader, hcontents⟩ := h.contents_eq
  rwa [Disk.bytes, hcontents, List.getElem?_concat_length]

theorem Made.bytes_of_ne {number : Nat} (hne : number ≠ d.contents.length) :
    d'.bytes number = d.bytes number := by
  obtain ⟨header, -, hcontents⟩ := h.contents_eq
  rw [Disk.bytes, Disk.bytes, hcontents]
  rcases Nat.lt_or_gt_of_ne hne with hlt | hgt
  · rw [List.getElem?_append_left hlt]
  · rw [List.getElem?_eq_none (by simp; omega), List.getElem?_eq_none (Nat.le_of_lt hgt)]

end Made

/-- A call leaves no name without its file. -/
theorem Effect.sound (h : Effect s c) (hs : s.disk.Sound) : (s.step c).1.disk.Sound := by
  cases h with
  | row _ _ _ _ _ disk_eq _ _ => exact disk_eq ▸ hs.append _ _
  | made _ made _ => exact made.sound hs
  | same _ _ directories _ _ => exact hs.moreDirectories directories

/-- No file loses anything. -/
theorem Effect.keeps_bytes (h : Effect s c) (number : Nat) :
    s.disk.bytes number <+: (s.step c).1.disk.bytes number := by
  cases h with
  | @row _ _ handle _ _ _ _ _ _ _ disk_eq bytes_eq _ =>
    by_cases hn : number = handle.log.number
    · rw [hn, bytes_eq]
      exact List.prefix_append _ _
    · have heq : (s.step c).1.disk.bytes number = s.disk.bytes number := by
        rw [disk_eq, Disk.bytes_append_of_ne hn]
      exact heq ▸ List.prefix_refl _
  | made call_eq made added_eq =>
    by_cases hn : number = s.disk.contents.length
    · rw [hn, Disk.bytes, List.getElem?_eq_none (Nat.le_refl _)]
      exact List.nil_prefix
    · exact made.bytes_of_ne hn ▸ List.prefix_refl _
  | same _ _ directories _ _ => exact directories.bytes number ▸ List.prefix_refl _

end Effects

/-! ## Many calls

The additions of a desk are in the order in which they were made, and `recordsIn` picks out those
that went to one file.  That is the order of its rows, whichever logs they came from. -/

/-- The records among the additions that went to a file. -/
def recordsIn (added : List Addition) (number : Nat) : List Record :=
  (added.filter (·.number = number)).map (·.record)

theorem recordsIn_concat (added : List Addition) (a : Addition) (number : Nat) :
    recordsIn (added ++ [a]) number =
      recordsIn added number ++ if a.number = number then [a.record] else [] := by
  rw [recordsIn, List.filter_append, List.map_append, recordsIn]
  by_cases h : a.number = number <;> simp [h]

theorem recordsIn_eq_nil {added : List Addition} {number : Nat}
    (h : ∀ a ∈ added, a.number ≠ number) : recordsIn added number = [] := by
  rw [recordsIn, List.filter_eq_nil_iff.2 fun a ha => by simpa using h a ha]
  rfl

/-- The additions account for all that has become of the logs and the files since the disk was like
this. -/
structure Accounts (d : Disk) (s : Desk) : Prop where
  /-- No file has been lost. -/
  length_le : d.contents.length ≤ s.disk.contents.length
  /-- Every log has its file. -/
  number_lt : ∀ h ∈ s.handles, h.log.number < s.disk.contents.length
  /-- Every row was added to the file of its log. -/
  added_of : ∀ a ∈ s.added, ∃ h, s.handles[a.index]? = some h ∧ h.log.number = a.number
  /-- Every log counts the rows that were added through it. -/
  rows_eq : ∀ index h, s.handles[index]? = some h →
    h.log.rows = s.added.countP (·.index = index)
  /-- A file holds what it held or one row with the names of columns, and then the rows that were
  added to it. -/
  bytes_eq : ∀ number < s.disk.contents.length, ∃ base bytes,
    (if number < d.contents.length then base = d.bytes number
      else ∃ schema : Schema, Csv.RowText schema.names base) ∧
    Record.WrittenAs (recordsIn s.added number) bytes ∧ s.disk.bytes number = base ++ bytes

namespace Accounts

variable {d d' : Disk} {s : Desk}

theorem start (d : Disk) : Accounts d ⟨d, [], []⟩ := by
  refine ⟨Nat.le_refl _, nofun, nofun, fun index h hh => ?_, fun number hn => ?_⟩
  · simp at hh
  · exact ⟨d.bytes number, [], by rw [if_pos hn], Record.writtenAs_iff.2 rfl,
      (List.append_nil _).symm⟩

theorem number_lt_of_mem (h : Accounts d s) {a : Addition} (ha : a ∈ s.added) :
    a.number < s.disk.contents.length := by
  obtain ⟨handle, hhandle, hnumber⟩ := h.added_of a ha
  rw [← hnumber]
  exact h.number_lt _ (List.mem_of_getElem? hhandle)

theorem index_lt_of_mem (h : Accounts d s) {a : Addition} (ha : a ∈ s.added) :
    a.index < s.handles.length := by
  obtain ⟨handle, hhandle, -⟩ := h.added_of a ha
  exact (List.getElem?_eq_some_iff.1 hhandle).1

/-- More directories. -/
theorem more (h : Accounts d s) (hmore : MoreDirectories s.disk d') :
    Accounts d { s with disk := d' } := by
  refine ⟨?_, ?_, h.added_of, h.rows_eq, fun number hn => ?_⟩
  · rw [hmore.contents]
    exact h.length_le
  · rw [hmore.contents]
    exact h.number_lt
  · rw [hmore.contents] at hn
    rw [hmore.bytes]
    exact h.bytes_eq number hn

/-- One more file, with a header. -/
theorem made (h : Accounts d s) {path : String} {schema : Schema}
    (hmade : Made s.disk d' path schema) : Accounts d { s with disk := d' } := by
  refine ⟨?_, fun handle hh => ?_, h.added_of, h.rows_eq, fun number hn => ?_⟩
  · rw [hmade.length_eq]
    exact Nat.le_succ_of_le h.length_le
  · rw [hmade.length_eq]
    exact Nat.lt_succ_of_lt (h.number_lt handle hh)
  · by_cases heq : number = s.disk.contents.length
    · subst heq
      -- nothing can have been added to a file that was not there
      have hnone : recordsIn s.added s.disk.contents.length = [] :=
        recordsIn_eq_nil fun a ha => Nat.ne_of_lt (h.number_lt_of_mem ha)
      refine ⟨_, [], ?_, ?_, (List.append_nil _).symm⟩
      · rw [if_neg (Nat.not_lt.2 h.length_le)]
        exact ⟨schema, hmade.bytes_self⟩
      · rw [hnone]
        exact Record.writtenAs_iff.2 rfl
    · rw [hmade.length_eq] at hn
      rw [hmade.bytes_of_ne heq]
      exact h.bytes_eq number (by omega)

/-- One more log that is open. -/
theorem opened (h : Accounts d s) {log : LogFile} (hlt : log.number < s.disk.contents.length)
    (hrows : log.rows = 0) : Accounts d { s with handles := s.handles ++ [⟨log, true⟩] } := by
  refine ⟨h.length_le, fun handle hh => ?_, fun a ha => ?_, fun index handle hh => ?_, h.bytes_eq⟩
  · rcases List.mem_append.1 hh with hh | hh
    · exact h.number_lt handle hh
    · rw [List.mem_singleton.1 hh]
      exact hlt
  · obtain ⟨handle, hhandle, hnumber⟩ := h.added_of a ha
    refine ⟨handle, ?_, hnumber⟩
    rw [List.getElem?_append_left (h.index_lt_of_mem ha), hhandle]
  · rcases Nat.lt_or_ge index s.handles.length with hlt | hge
    · rw [List.getElem?_append_left hlt] at hh
      exact h.rows_eq index handle hh
    · rw [List.getElem?_append_right hge, List.getElem?_singleton] at hh
      split at hh
      · cases hh
        rw [hrows, eq_comm, List.countP_eq_zero]
        intro a ha
        have := h.index_lt_of_mem ha
        simp only [decide_eq_true_eq]
        omega
      · cases hh

/-- A row that is added stands at the end of its file, and the other files stay as they are. -/
theorem bytes_row (h : Accounts d s) (a : Addition) {number : Nat}
    (hn : number < s.disk.contents.length) : ∃ base bytes,
      (if number < d.contents.length then base = d.bytes number
        else ∃ schema : Schema, Csv.RowText schema.names base) ∧
      Record.WrittenAs (recordsIn (s.added ++ [a]) number) bytes ∧
      (s.disk.append a.number (rowOf a.record)).bytes number = base ++ bytes := by
  obtain ⟨base, bytes, hbase, hwritten, hbytes⟩ := h.bytes_eq number hn
  rw [recordsIn_concat]
  by_cases heq : a.number = number
  · subst heq
    refine ⟨base, bytes ++ rowOf a.record, hbase, ?_, ?_⟩
    · rw [if_pos rfl]
      exact hwritten.concat (Record.isRow_iff.2 rfl) a.record.rowText_rowOf
    · rw [Disk.bytes_append_self hn, hbytes, List.append_assoc]
  · refine ⟨base, bytes, hbase, ?_, ?_⟩
    · rwa [if_neg heq, List.append_nil]
    · rw [Disk.bytes_append_of_ne (Ne.symm heq), hbytes]

/-- One more row. -/
theorem row (h : Accounts d s) {index : Nat} {log : LogFile}
    (hlog : s.handles[index]? = some ⟨log, true⟩) (record : Record) :
    Accounts d ⟨s.disk.append log.number (rowOf record),
      s.handles.set index ⟨{ log with rows := log.rows + 1 }, true⟩,
      s.added ++ [⟨index, log.number, record⟩]⟩ := by
  have hlt := h.number_lt _ (List.mem_of_getElem? hlog)
  have hindex := (List.getElem?_eq_some_iff.1 hlog).1
  refine ⟨?_, fun handle hh => ?_, fun a ha => ?_, fun other handle hh => ?_, fun number hn => ?_⟩
  · rw [Disk.length_contents_append]
    exact h.length_le
  · rw [Disk.length_contents_append]
    rcases List.mem_or_eq_of_mem_set hh with hh | hh
    · exact h.number_lt handle hh
    · rw [hh]
      exact hlt
  · rw [List.getElem?_set]
    rcases List.mem_append.1 ha with ha | ha
    · obtain ⟨handle, hhandle, hnumber⟩ := h.added_of a ha
      split
      · rename_i heq
        rw [← heq, hlog] at hhandle
        cases hhandle
        exact ⟨_, rfl, hnumber⟩
      · exact ⟨handle, hhandle, hnumber⟩
    · rw [List.mem_singleton.1 ha, if_pos rfl]
      exact ⟨_, if_pos hindex, rfl⟩
  · -- one more was added through this log, and as many as before through the others
    rw [List.countP_append]
    rw [List.getElem?_set] at hh
    split at hh
    · rename_i heq
      subst heq
      cases hh
      rw [← h.rows_eq index _ hlog]
      simp
    · rename_i hne
      rw [h.rows_eq other handle hh]
      simp [hne]
  · rw [Disk.length_contents_append] at hn
    exact h.bytes_row ⟨index, log.number, record⟩ hn

theorem closed_getElem? {handles : List Handle} {index other : Nat} {handle : Handle}
    (h : (handles.modify index ({ · with isOpen := false }))[other]? = some handle) :
    ∃ found, handles[other]? = some found ∧ handle.log = found.log := by
  rw [List.getElem?_modify, Option.map_eq_map, Option.map_eq_some_iff] at h
  obtain ⟨found, hfound, rfl⟩ := h
  refine ⟨found, hfound, ?_⟩
  split <;> rfl

/-- A log is closed. -/
theorem closed (h : Accounts d s) (index : Nat) :
    Accounts d { s with handles := s.handles.modify index ({ · with isOpen := false }) } := by
  refine ⟨h.length_le, fun handle hh => ?_, fun a ha => ?_, fun other handle hh => ?_, h.bytes_eq⟩
  · obtain ⟨other, ho⟩ := List.mem_iff_getElem?.1 hh
    obtain ⟨found, hfound, hlog⟩ := closed_getElem? ho
    rw [hlog]
    exact h.number_lt found (List.mem_of_getElem? hfound)
  · obtain ⟨handle, hhandle, hnumber⟩ := h.added_of a ha
    rw [List.getElem?_modify, hhandle]
    refine ⟨_, rfl, ?_⟩
    split <;> exact hnumber
  · obtain ⟨found, hfound, hlog⟩ := closed_getElem? hh
    rw [hlog]
    exact h.rows_eq other found hfound

/-- Opening a log makes its file or leaves the files as they are. -/
theorem disk_start (h : Accounts d s) (path : String) (verify : Bool) (schema : Schema) :
    Accounts d { s with disk := (LogFile.start s.disk path verify schema).disk } := by
  have hmore : MoreDirectories s.disk (LogFile.withParents s.disk path) :=
    Disk.moreDirectories_makeDirectories _ _
  rcases LogFile.start_cases s.disk path verify schema with ⟨number, d', hc, -, hd⟩ | ⟨hd, -⟩
  · rw [hd]
    exact h.made (made_of_create hmore hc schema)
  · rw [hd]
    exact h.more hmore

/-- **A call is accounted for**, if a log that it opens has a file. -/
theorem step (h : Accounts d s) (c : Call)
    (hlt : ∀ path verify schema log, c = .start path verify schema →
      (LogFile.start s.disk path verify schema).result = .ok log →
      log.number < (LogFile.start s.disk path verify schema).disk.contents.length) :
    Accounts d (s.step c).1 := by
  cases c with
  | ensureHeader path schema =>
    cases hc : s.disk.create path with
    | ok made =>
      rw [step_ensureHeader_of_create hc]
      exact h.made (made_of_create (.refl _) hc schema)
    | error e =>
      rw [step_ensureHeader_of_error hc]
      exact h
  | verifyHeader path schema =>
    obtain ⟨a, hstep, -⟩ := s.step_verifyHeader path schema
    rw [hstep]
    exact h
  | start path verify schema =>
    have hdisk := h.disk_start path verify schema
    obtain ⟨opened, a, hstep, ⟨log, hr, rfl, -⟩ | ⟨e, -, rfl, -⟩⟩ := s.step_start path verify schema
    · rw [hstep]
      exact hdisk.opened (hlt _ _ _ _ rfl hr) (LogFile.rows_of_start_eq_ok hr)
    · rw [hstep, List.append_nil]
      exact hdisk
  | append index record =>
    rcases s.step_append index record with hstep | ⟨log, hlog, hstep⟩
    · rw [hstep]
      exact h
    · rw [hstep]
      exact h.row hlog record
  | close index => exact h.closed index

end Accounts

/-- What is true of a desk that has come from this disk. -/
structure Since (d : Disk) (s : Desk) : Prop extends Accounts d s where
  /-- Every file that has a name has contents. -/
  sound : s.disk.Sound

namespace Since

variable {d : Disk} {s : Desk}

theorem start (hd : d.Sound) : Since d ⟨d, [], []⟩ := ⟨.start d, hd⟩

/-- **A call keeps what is true of a desk.** -/
theorem step (h : Since d s) (c : Call) : Since d (s.step c).1 := by
  have hsound := (effect h.number_lt c).sound h.sound
  refine ⟨h.toAccounts.step c fun path verify schema log _ hr => ?_, hsound⟩
  exact (LogFile.sound_start h.sound).of_openAppend (LogFile.of_start_eq_ok hr).2.2

theorem run (h : Since d s) (calls : List Call) : Since d (s.run calls) := by
  induction calls generalizing s with
  | nil => exact h
  | cons c calls ih => exact ih (h.step c)

end Since

/-- What was at a path stays there, also over many calls. -/
theorem extends_run {s : Desk} {d : Disk} (h : Since d s) (calls : List Call) :
    Extends s.disk (s.run calls).disk := by
  induction calls generalizing s with
  | nil => exact Extends.refl _
  | cons c calls ih => exact (effect h.number_lt c).extends.trans (ih (h.step c))

theorem bytes_prefix_run {s : Desk} {d : Disk} (h : Since d s) (calls : List Call)
    (number : Nat) : s.disk.bytes number <+: (s.run calls).disk.bytes number := by
  induction calls generalizing s with
  | nil => exact List.prefix_refl _
  | cons c calls ih => exact ((effect h.number_lt c).keeps_bytes number).trans (ih (h.step c))

/-- **Files only grow.**  After any calls, on whatever was on the disk, the next one adds one row to
the file of its log, or makes a file with a header where nothing was, or changes no file, as every
call does that fails.  What a file holds stays at its beginning for ever, and it consists of what
was there at first, or of one header, and of the rows that have been added to it since.  Every log
has counted its own rows. -/
theorem files_only_grow {d : Disk} (hd : d.Sound) (calls : List Call) :
    (∀ c, Effect (run ⟨d, [], []⟩ calls) c) ∧
      (∀ c fault, ((run ⟨d, [], []⟩ calls).step c).2 = .failed fault →
        MoreDirectories (run ⟨d, [], []⟩ calls).disk ((run ⟨d, [], []⟩ calls).step c).1.disk) ∧
      (∀ more number, (run ⟨d, [], []⟩ calls).disk.bytes number <+:
        (run ⟨d, [], []⟩ (calls ++ more)).disk.bytes number) ∧
      (∀ more path before, (run ⟨d, [], []⟩ calls).disk.read path = .ok before →
        ∃ rest, (run ⟨d, [], []⟩ (calls ++ more)).disk.read path = .ok (before ++ rest)) ∧
      Since d (run ⟨d, [], []⟩ calls) := by
  have hsince := (Since.start hd).run calls
  have heffect := effect hsince.number_lt
  refine ⟨heffect, fun c fault h => (heffect c).directories_of_failed h, fun more number => ?_,
    fun more path before hread => ?_, hsince⟩
  · rw [run_append]
    exact bytes_prefix_run hsince more number
  · obtain ⟨number, hopen, rfl⟩ := Disk.read_eq_ok_iff.1 hread
    obtain ⟨rest, hrest⟩ := bytes_prefix_run hsince more number
    refine ⟨rest, ?_⟩
    rw [run_append, hrest, Disk.read_eq_ok_iff]
    exact ⟨number, (extends_run hsince more).openAppend hopen, rfl⟩

/-- A log is not opened because of its header, and then is and gets a row; another file is made. -/
theorem files_only_grow_of_other_header :
    (Disk.ofFiles [("log.csv", [0x56, 0x0A])]).Sound ∧
      (step ⟨Disk.ofFiles [("log.csv", [0x56, 0x0A])], [], []⟩
        (.start "log.csv" true ⟨["pf"]⟩)).2 = .failed (.headerMismatch "log.csv" "pf" "V") ∧
      ∃ s, s = run ⟨Disk.ofFiles [("log.csv", [0x56, 0x0A])], [], []⟩
          [.start "log.csv" true ⟨["pf"]⟩, .start "log.csv" false ⟨["pf"]⟩,
            .append 0 (Record.ofPayload ⟨[("pf", .array [.null, .text "a"])]⟩ ⟨["pf"]⟩),
            .ensureHeader "new.csv" ⟨["a,b", ""]⟩] ∧
        s.disk.read "log.csv" = .ok ([0x56, 0x0A] ++ [0x22, 0x5B, 0x6E, 0x75, 0x6C, 0x6C, 0x2C,
          0x22, 0x22, 0x61, 0x22, 0x22, 0x5D, 0x22, 0x0D, 0x0A]) ∧
        s.disk.read "new.csv" = .ok [0x22, 0x61, 0x2C, 0x62, 0x22, 0x2C, 0x0D, 0x0A] ∧
        (∀ c, Effect s c) ∧ Since (Disk.ofFiles [("log.csv", [0x56, 0x0A])]) s := by
  have hsound := Disk.sound_ofFiles [("log.csv", [0x56, 0x0A])]
  obtain ⟨heffect, -, -, -, hsince⟩ := files_only_grow hsound
    [.start "log.csv" true ⟨["pf"]⟩, .start "log.csv" false ⟨["pf"]⟩,
      .append 0 (Record.ofPayload ⟨[("pf", .array [.null, .text "a"])]⟩ ⟨["pf"]⟩),
      .ensureHeader "new.csv" ⟨["a,b", ""]⟩]
  refine ⟨hsound, ?_, _, rfl, ?_, ?_, heffect, hsince⟩
  · decide +kernel
  · decide +kernel
  · decide +kernel

end Desk
end TelemetryLog
