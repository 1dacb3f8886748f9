import TelemetryLog.Proofs.Log.AppendOnly
import TelemetryLog.Proofs.Log.ReadBack

/-!
# Using one log again and again

A log is opened, rows are added, it is closed, and all that as often as one likes; this is what a
`Session` goes through, one `Action` after the other, and it keeps a list of the records that were
added on the way.

Once the log has been made (`Kept`), every action keeps it what it should be: the file holds the
header and the rows of all those records, and it can always be opened again.

## A session and a desk

A session is the special case of a desk (`Proofs.Log.AppendOnly`) on which all logs have one path
and one list of columns, so nothing about files is proved a second time.  `OnDesk` relates the two:
the same disk, the same records, and the open log of the session among the logs of the desk.  Each
action of a session is one call on the desk (`OnDesk.start`, `OnDesk.add`), and closing is none at
all, since a log that is not used any more may stay open there.

`Kept` says that there is a desk that accounts for everything since the disk was like this, and what
one wants to know of a session is then read off the account of the desk: what the file held at
first, and the rows of the records since (`Kept.bytes`).  A session may begin with a file that is
there (`kept_of_openAppend`), which is how `Proofs.Log.Resume` uses it, or with one that it makes
(`kept_of_start`), which is the subject here.

The session does not ask for a disk without dangling names.  All that the desk needs is that the one
file has contents, and it has them because it was made or was there.

## What is not here

Nobody else writes to the file in the meantime.  What several logs do to one disk is said for desks.
And there must be no file once the directories have been made; the condition that there was none
before is not enough (`old_file_behind_missing_directory`).
-/

set_option autoImplicit false

namespace TelemetryLog

/-- One thing that is done with a log. -/
inductive Action where
  /-- It is opened, after its header has been verified or not. -/
  | start (verify : Bool)
  /-- The record of a payload is added. -/
  | add (p : Payload)
  /-- It is closed. -/
  | close

/-- Where things stand with the log at one path. -/
structure Session where
  /-- The disk. -/
  disk : Disk
  /-- The open log, if it is open. -/
  log : Option LogFile := none
  /-- The records that have been added so far. -/
  added : List Record := []

namespace Session

variable {path : String} {schema : Schema} {s : Session}

/-- Does one thing.  Nothing is added to a log that is not open. -/
def step (path : String) (schema : Schema) (s : Session) : Action → Session
  | .start verify =>
    let a := LogFile.start s.disk path verify schema
    { s with disk := a.disk, log := a.result.toOption }
  | .add p =>
    match s.log with
    | none => s
    | some log =>
      let r := Record.ofPayload p log.schema
      let (log, disk) := log.append s.disk r
      ⟨disk, some log, s.added ++ [r]⟩
  | .close => { s with log := none }

theorem step_start (path : String) (schema : Schema) (s : Session) (verify : Bool) :
    step path schema s (.start verify) =
      ⟨(LogFile.start s.disk path verify schema).disk,
        (LogFile.start s.disk path verify schema).result.toOption, s.added⟩ := rfl

/-- Does one thing after the other. -/
def run (path : String) (schema : Schema) (s : Session) (actions : List Action) : Session :=
  actions.foldl (step path schema) s

theorem run_cons (path : String) (schema : Schema) (s : Session) (a : Action)
    (actions : List Action) :
    run path schema s (a :: actions) = run path schema (step path schema s a) actions := rfl

/-- A log that is open stays open while records are added to it, and each is added. -/
theorem added_adds {log : LogFile} (hlog : s.log = some log) (ps : List Payload) :
    (s.run path schema (ps.map .add)).added =
      s.added ++ ps.map (Record.ofPayload · log.schema) := by
  induction ps generalizing s log with
  | nil => exact (List.append_nil _).symm
  | cons p ps ih =>
    have hstep : step path schema s (.add p) =
        ⟨s.disk.append log.number (LogFile.rowOf (.ofPayload p log.schema)),
          some { log with rows := log.rows + 1 }, s.added ++ [.ofPayload p log.schema]⟩ := by
      rw [step, hlog]
      rfl
    rw [List.map_cons, run_cons, hstep, ih rfl, List.map_cons, List.append_assoc,
      List.singleton_append]

/-! ## Sessions on a desk

A desk remembers logs by index and never forgets one, while a session has one log or none.  Which
index the log of a session has does not matter, so it is only said that there is one. -/

/-- What the session has done has been done at the desk, where all logs are logs of one file. -/
structure OnDesk (path : String) (schema : Schema) (number : Nat) (s : Session) (t : Desk) :
    Prop where
  /-- The disk is the same. -/
  disk_eq : t.disk = s.disk
  /-- The file is there. -/
  opens : s.disk.openAppend path = .ok number
  /-- The same records have been added. -/
  added_eq : t.added.map (·.record) = s.added
  /-- They have the columns of the log. -/
  schemas : ∀ r ∈ s.added, r.schema = schema
  /-- All logs of the desk are logs of this file, with these columns. -/
  handles : ∀ h ∈ t.handles, h.log.number = number ∧ h.log.schema = schema
  /-- If the log of the session is open, it is one of them. -/
  log : ∀ log, s.log = some log → ∃ index : Nat, t.handles[index]? = some ⟨log, true⟩

namespace OnDesk

variable {number : Nat} {t : Desk} (h : OnDesk path schema number s t)

include h

/-- Opening the log once more is one call. -/
theorem start (verify : Bool) :
    OnDesk path schema number (s.step path schema (.start verify))
      (t.step (.start path verify schema)).1 := by
  have hdisk : (LogFile.start s.disk path verify schema).disk = s.disk :=
    LogFile.disk_start_of_openAppend h.opens
  obtain ⟨opened, a, hstep, ha⟩ := t.step_start path verify schema
  rw [h.disk_eq] at hstep ha
  rw [hstep, step_start, hdisk]
  rcases ha with ⟨log, hresult, rfl, -⟩ | ⟨e, hresult, rfl, -⟩
  · obtain ⟨-, hschema, hopen⟩ := LogFile.of_start_eq_ok hresult
    rw [hdisk, h.opens] at hopen
    refine ⟨rfl, h.opens, h.added_eq, h.schemas, fun found hfound => ?_, fun log' hlog' => ?_⟩
    · rcases List.mem_append.1 hfound with hfound | hfound
      · exact h.handles found hfound
      · rw [List.mem_singleton.1 hfound]
        exact ⟨(Except.ok.inj hopen).symm, hschema⟩
    · rw [hresult] at hlog'
      cases hlog'
      exact ⟨t.handles.length, List.getElem?_concat_length⟩
  · refine ⟨rfl, h.opens, h.added_eq, h.schemas, ?_, fun log' hlog' => ?_⟩
    · rw [List.append_nil]
      exact h.handles
    · rw [hresult] at hlog'
      cases hlog'

/-- Adding a record is one call. -/
theorem add {log : LogFile} (hlog : s.log = some log) (p : Payload) :
    ∃ index, OnDesk path schema number (s.step path schema (.add p))
      (t.step (.append index (.ofPayload p log.schema))).1 := by
  obtain ⟨index, hindex⟩ := h.log log hlog
  obtain ⟨rfl, rfl⟩ := h.handles _ (List.mem_of_getElem? hindex)
  have hlt := (List.getElem?_eq_some_iff.1 hindex).1
  refine ⟨index, ?_⟩
  rw [Desk.step_append_of_open hindex (Record.ofPayload p log.schema).length_values, step, hlog,
    h.disk_eq]
  refine ⟨rfl, (s.disk.openAppend_append _ _ _).trans h.opens, ?_, ?_, fun found hfound => ?_, ?_⟩
  · rw [List.map_append, h.added_eq]
    rfl
  · exact List.forall_mem_append.2 ⟨h.schemas, List.forall_mem_singleton.2 rfl⟩
  · rcases List.mem_or_eq_of_mem_set hfound with hfound | rfl
    · exact h.handles found hfound
    · exact ⟨rfl, rfl⟩
  · rintro log' ⟨⟩
    exact ⟨index, List.getElem?_set_self hlt⟩

/-- All records have gone to the one file. -/
theorem recordsIn_eq {d : Disk} (ht : Desk.Accounts d t) :
    Desk.recordsIn t.added number = s.added := by
  rw [Desk.recordsIn, List.filter_eq_self.2, h.added_eq]
  intro a ha
  obtain ⟨found, hfound, hnumber⟩ := ht.added_of a ha
  rw [← hnumber, (h.handles found (List.mem_of_getElem? hfound)).1]
  exact decide_eq_true rfl

end OnDesk

/-- The session has used the log of one file since the disk was like this, and a desk accounts for
all of it. -/
structure Kept (path : String) (schema : Schema) (d : Disk) (number : Nat) (s : Session) :
    Prop where
  /-- The file had contents. -/
  lt : number < d.contents.length
  /-- A desk accounts for what has been done. -/
  desk : ∃ t, Desk.Accounts d t ∧ OnDesk path schema number s t

namespace Kept

variable {d : Disk} {number : Nat} (h : Kept path schema d number s)

include h

theorem opens : s.disk.openAppend path = .ok number := by
  obtain ⟨_, -, ht⟩ := h.desk
  exact ht.opens

theorem schemas : ∀ r ∈ s.added, r.schema = schema := by
  obtain ⟨_, -, ht⟩ := h.desk
  exact ht.schemas

/-- The file holds what it held, and the rows of the records that have been added. -/
theorem bytes : s.disk.bytes number = d.bytes number ++ s.added.flatMap LogFile.rowOf := by
  obtain ⟨t, haccounts, ht⟩ := h.desk
  obtain ⟨base, bytes, hbase, hwritten, hbytes⟩ :=
    haccounts.bytes_eq number (Nat.lt_of_lt_of_le h.lt haccounts.length_le)
  rw [if_pos h.lt] at hbase
  rw [ht.recordsIn_eq haccounts, Record.writtenAs_iff] at hwritten
  rw [← ht.disk_eq, hbytes, hbase, hwritten]

theorem read :
    s.disk.read path = .ok (d.bytes number ++ s.added.flatMap LogFile.rowOf) := by
  rw [Disk.read, h.opens, ← h.bytes]

/-- **Whatever is done with the log, the desk accounts for it.** -/
theorem step (a : Action) : Kept path schema d number (s.step path schema a) := by
  obtain ⟨t, haccounts, ht⟩ := h.desk
  refine ⟨h.lt, ?_⟩
  cases a with
  | start verify =>
    refine ⟨_, haccounts.step (.start path verify schema) ?_, ht.start verify⟩
    rintro _ _ _ log ⟨⟩ hresult
    rw [ht.disk_eq] at hresult ⊢
    have hopen := (LogFile.of_start_eq_ok hresult).2.2
    rw [LogFile.disk_start_of_openAppend ht.opens] at hopen ⊢
    rw [ht.opens] at hopen
    rw [← Except.ok.inj hopen, ← ht.disk_eq]
    exact Nat.lt_of_lt_of_le h.lt haccounts.length_le
  | add p =>
    cases hlog : s.log with
    | none =>
      rw [Session.step, hlog]
      exact ⟨t, haccounts, ht⟩
    | some log =>
      obtain ⟨index, ht'⟩ := ht.add hlog p
      exact ⟨_, haccounts.step (.append index _) nofun, ht'⟩
  | close =>
    exact ⟨t, haccounts, ht.disk_eq, ht.opens, ht.added_eq, ht.schemas, ht.handles, nofun⟩

theorem run (actions : List Action) : Kept path schema d number (s.run path schema actions) := by
  induction actions generalizing s with
  | nil => exact h
  | cons a actions ih =>
    rw [run_cons]
    exact ih (h.step a)

end Kept

/-- A log that is there is kept from the beginning. -/
theorem kept_of_openAppend {d : Disk} {number : Nat} (hopen : d.openAppend path = .ok number)
    (hlt : number < d.contents.length) (schema : Schema) :
    Kept path schema d number { disk := d } :=
  ⟨hlt, ⟨d, [], []⟩, .start d, rfl, hopen, rfl, nofun, nofun, nofun⟩

/-- A log that is made holds its header, and is kept from then on. -/
theorem kept_of_start {d : Disk} {verify : Bool} {log : LogFile}
    (hnew : ∀ number, (LogFile.withParents d path).openAppend path ≠ .ok number)
    (hstart : (LogFile.start d path verify schema).result = .ok log) :
    ∃ d₁, d₁.bytes log.number = LogFile.headerRow schema ∧
      Kept path schema d₁ log.number (step path schema { disk := d } (.start verify)) := by
  rcases LogFile.start_cases d path verify schema with
    ⟨number, d', hc, hr, hd⟩ | ⟨-, ⟨number, ho, -⟩ | ⟨e, hr⟩⟩
  · rw [hr] at hstart
    cases hstart
    obtain ⟨hlt, hempty⟩ := Disk.bytes_of_create hc
    have hopen : (d'.append number (LogFile.headerRow schema)).openAppend path = .ok number :=
      (d'.openAppend_append _ _ _).trans (Disk.openAppend_of_create hc)
    have hlt' : number < (d'.append number (LogFile.headerRow schema)).contents.length := by
      rwa [Disk.length_contents_append]
    refine ⟨d'.append number (LogFile.headerRow schema), ?_, hlt', ?_⟩
    · rw [Disk.bytes_append_self hlt, hempty, List.nil_append]
    · -- the desk starts with this log
      refine ⟨⟨_, [⟨⟨path, schema, number, 0⟩, true⟩], []⟩,
        (Desk.Accounts.start _).opened hlt' rfl, ?_⟩
      rw [step_start, hr, hd]
      refine ⟨rfl, hopen, rfl, nofun, List.forall_mem_singleton.2 ⟨rfl, rfl⟩, ?_⟩
      rintro log ⟨⟩
      exact ⟨0, rfl⟩
  · exact absurd ho (hnew number)
  · rw [hr] at hstart
    cases hstart

/-- A log that is made holds its header and the rows of all records that have been added since. -/
theorem Kept.read_logBytes {d₁ : Disk} {number : Nat} (h : Kept path schema d₁ number s)
    (hheader : d₁.bytes number = LogFile.headerRow schema) :
    s.disk.read path = .ok (LogFile.logBytes schema s.added) := by
  rw [h.read, hheader, LogFile.logBytes]

/-- **A log reads back exactly.**  Where there is no file once the directories that lead to it have
been made, opening a log makes one, and however often it is used from then on, its file reads as the
names of the columns and the fields of the records that have been added, in order.  It can also be
opened again at any point, with its header verified or not. -/
theorem run_reads_back {d : Disk} (hschema : schema.isReadable)
    (hnew : ∀ number, (LogFile.withParents d path).openAppend path ≠ .ok number) {verify : Bool}
    {log : LogFile} (hstart : (LogFile.start d path verify schema).result = .ok log)
    (actions : List Action) :
    (∃ bs, (run path schema { disk := d } (.start verify :: actions)).disk.read path = .ok bs ∧
        Csv.rows bs =
          schema.names.map Utf8.encode ::
            (run path schema { disk := d } (.start verify :: actions)).added.map fun r =>
              r.fields.map Utf8.encode) ∧
      ∀ verify', ∃ log',
        (LogFile.start (run path schema { disk := d } (.start verify :: actions)).disk path verify'
          schema).result = .ok log' := by
  obtain ⟨d₁, hheader, hmade⟩ := kept_of_start hnew hstart
  have hkept := hmade.run actions
  have hread := hkept.read_logBytes hheader
  rw [run_cons]
  exact ⟨⟨_, hread, LogFile.rows_logBytes hschema hkept.schemas⟩, fun verify' =>
    ⟨_, LogFile.start_of_openAppend hkept.opens fun _ =>
      LogFile.verifyHeader_of_read hschema hkept.schemas hread⟩⟩

/-- One column whose name has to be quoted, two sessions, and a field with a line end in it. -/
theorem run_reads_back_of_two_sessions :
    (⟨["x,\"y\""]⟩ : Schema).isReadable ∧
      (∀ number, (LogFile.withParents Disk.empty "log.csv").openAppend "log.csv" ≠ .ok number) ∧
      (LogFile.start Disk.empty "log.csv" false ⟨["x,\"y\""]⟩).result =
        .ok ⟨"log.csv", ⟨["x,\"y\""]⟩, 0, 0⟩ ∧
      ∃ s, s = run "log.csv" ⟨["x,\"y\""]⟩ { disk := Disk.empty }
          [.start false, .add ⟨[("x,\"y\"", .text "1\r\n")]⟩, .close, .start true, .add ⟨[]⟩] ∧
        (∃ bs, s.disk.read "log.csv" = .ok bs ∧
          Csv.rows bs = ["x,\"y\""].map Utf8.encode ::
            s.added.map fun r => r.fields.map Utf8.encode) ∧
        ∀ verify, ∃ log,
          (LogFile.start s.disk "log.csv" verify ⟨["x,\"y\""]⟩).result = .ok log := by
  have hschema : (⟨["x,\"y\""]⟩ : Schema).isReadable := ⟨by simp, by simp⟩
  have hmissing : (LogFile.withParents Disk.empty "log.csv").openAppend "log.csv" =
      .error .missing := rfl
  have hnew : ∀ number,
      (LogFile.withParents Disk.empty "log.csv").openAppend "log.csv" ≠ .ok number :=
    fun number => by rw [hmissing]; exact nofun
  have hstart : (LogFile.start Disk.empty "log.csv" false ⟨["x,\"y\""]⟩).result =
      .ok ⟨"log.csv", ⟨["x,\"y\""]⟩, 0, 0⟩ := rfl
  exact ⟨hschema, hnew, hstart, _, rfl, run_reads_back hschema hnew hstart _⟩

/-- A path that leads out of a missing directory again has no file at first, and an old one as soon
as that directory has been made. -/
theorem old_file_behind_missing_directory :
    (⟨["pf"]⟩ : Schema).isReadable ∧
      (∀ number, (Disk.ofFiles [("log.csv", [0x6A, 0x0A])]).openAppend "new/../log.csv" ≠
        .ok number) ∧
      (LogFile.start (Disk.ofFiles [("log.csv", [0x6A, 0x0A])]) "new/../log.csv" false
        ⟨["pf"]⟩).result = .ok ⟨"new/../log.csv", ⟨["pf"]⟩, 0, 0⟩ ∧
      ∃ s, s = run "new/../log.csv" ⟨["pf"]⟩
          { disk := Disk.ofFiles [("log.csv", [0x6A, 0x0A])] } [.start false] ∧
        ¬∃ bs, s.disk.read "new/../log.csv" = .ok bs ∧
          Csv.rows bs = ["pf"].map Utf8.encode ::
            s.added.map fun r => r.fields.map Utf8.encode := by
  have hmissing : (Disk.ofFiles [("log.csv", [0x6A, 0x0A])]).openAppend "new/../log.csv" =
      .error .missing := rfl
  refine ⟨⟨by simp, by simp⟩, fun number => by rw [hmissing]; exact nofun, rfl, _, rfl, ?_⟩
  rintro ⟨bs, hread, hrows⟩
  rw [show (run "new/../log.csv" ⟨["pf"]⟩ { disk := Disk.ofFiles [("log.csv", [0x6A, 0x0A])] }
    [.start false]).disk.read "new/../log.csv" = .ok [0x6A, 0x0A] from rfl] at hread
  cases hread
  exact absurd hrows (by decide)

end Session
end TelemetryLog
