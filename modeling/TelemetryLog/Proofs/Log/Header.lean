import TelemetryLog.Proofs.Csv.Continue
import TelemetryLog.Proofs.Log.AppendOnly
import TelemetryLog.Proofs.Log.ReadBack

/-!
# A header tells the columns

The header of a log is its first row, and that row reads as the names of the columns whatever comes
behind it (`header_headerRow_append`): the rows of records, also of records with other columns.  No
two lists of names have the same header, since they are told apart by what the row reads as and not
by its text.  So a log that was made for one schema opens with its header verified for that schema
and for no other one, and the fault of another one names both (`start_verified_iff_same_names`).

## How it goes

The header row is written by `Csv.encodeTexts` and ends with its line end, so the reader is before a
row again when it is over, and the first row stays what it was (`header_encodeRow_append`).  What is
done with the disk in the meantime is a list of calls on a desk.  From `Proofs.Log.AppendOnly` it is
known that the file still begins as it did when it was made, and that the path still leads to it,
and more is not needed: verification looks at the beginning only.

The names in the message of a mismatch are joined by commas, so two different lists can look the
same there; `start_verified_iff_same_names_of_commas` has such a pair.  That is a matter of the
message and not of the comparison.

Of files that were made by something else nothing is said here.  Such a file may lack the line end
of its header, or hold nothing at all; see `Proofs.Log.Resume`.
-/

set_option autoImplicit false

namespace TelemetryLog

namespace Csv

/-- The first row of a file does not depend on what comes behind it. -/
theorem header_encodeRow_append {fs : List (List UInt8)} (hfs : fs ≠ []) {more : List UInt8}
    (hmark : dropByteOrderMark (encodeRow fs ++ more) = encodeRow fs ++ more) :
    header (encodeRow fs ++ more) = fs := by
  obtain ⟨rest, hrest⟩ := Reader.exists_finish_run { rows := [fs] } more
  rw [header, rows, hmark, Reader.run_append, Reader.run_encodeRow [] hfs, hrest]
  rfl

end Csv

namespace LogFile

variable {d : Disk} {path : String} {s₁ s₂ : Schema} {number : Nat}

/-- A file that begins with the header of a schema has its names for a header. -/
theorem header_headerRow_append (hs₁ : s₁.isReadable) (more : List UInt8) :
    Csv.header (headerRow s₁ ++ more) = s₁.names.map Utf8.encode := by
  obtain ⟨hne, hmark⟩ := hs₁
  refine Csv.header_encodeRow_append (by simpa using hne) ?_
  obtain ⟨name, names, hnames⟩ := List.exists_cons_of_ne_nil hne
  rw [hnames]
  exact Csv.dropByteOrderMark_encodeTexts (hmark name (by rw [hnames]; rfl)) names more

/-- Where a file is, opening it with its header verified is verifying the header. -/
theorem result_start_verified (h : d.openAppend path = .ok number) :
    (start d path true s₂).result =
      (verifyHeader d path s₂).map fun _ => ⟨path, s₂, number, 0⟩ := by
  cases hverify : verifyHeader d path s₂ with
  | ok u => exact start_of_openAppend h fun _ => hverify
  | error e =>
    rw [start, makeParents_of_openAppend h]
    simp only [startIn, ensureHeader_of_openAppend h, if_pos, hverify]
    rfl

/-- A file that begins with the header of one schema opens for another one just if the names are
the same. -/
theorem result_start_verified_of_header (hs₁ : s₁.isReadable) (s₂ : Schema)
    (h : d.openAppend path = .ok number) (hbytes : headerRow s₁ <+: d.bytes number) :
    (start d path true s₂).result =
      if s₁ = s₂ then .ok ⟨path, s₂, number, 0⟩
      else .error (.headerMismatch path s₂.headerLine s₁.headerLine) := by
  obtain ⟨more, hmore⟩ := hbytes
  have hread : d.read path = .ok (headerRow s₁ ++ more) := by rw [Disk.read, h, hmore]
  have hsame : s₁.names = s₂.names ↔ s₁ = s₂ := by rw [Schema.mk.injEq]
  rw [result_start_verified h, verifyHeader_of_header hread (header_headerRow_append hs₁ more)]
  simp only [hsame]
  split
  · rfl
  · rfl

end LogFile

namespace Desk

open LogFile (headerRow)

/-- Opening a log where nothing is makes a file that begins with its header. -/
theorem header_of_step_start {s : Desk} {path : String} {verify : Bool} {schema : Schema}
    (hnew : ∀ number, (LogFile.withParents s.disk path).openAppend path ≠ .ok number)
    (hopened : (s.step (.start path verify schema)).2 = .opened) :
    ∃ number, (s.step (.start path verify schema)).1.disk.openAppend path = .ok number ∧
      headerRow schema <+: (s.step (.start path verify schema)).1.disk.bytes number := by
  obtain ⟨opened, a, hstep, ha⟩ := s.step_start path verify schema
  rw [hstep] at hopened ⊢
  rcases ha with ⟨log, hlog, -, -⟩ | ⟨e, -, -, rfl⟩
  · rcases LogFile.start_cases s.disk path verify schema with
      ⟨number, d', hc, -, hd⟩ | ⟨-, ⟨number, hthere, -⟩ | ⟨e, he⟩⟩
    · obtain ⟨hlt, -⟩ := Disk.bytes_of_create hc
      refine ⟨number, ?_, ?_⟩
      · rw [hd, Disk.openAppend_append]
        exact Disk.openAppend_of_create hc
      · rw [hd, Disk.bytes_append_self hlt, (Disk.bytes_of_create hc).2]
        exact List.prefix_rfl
    · exact absurd hthere (hnew number)
    · rw [hlog] at he
      cases he
  · cases hopened

/-- **A header tells the columns.**  Where there is no file once the directories that lead to it
have been made, opening a log makes one, and whatever is done with logs from then on, here or
elsewhere on the disk: with its header verified it opens for a schema just if the names of the
columns are the same, and else the fault is that of the header, with both lists of names.  Either
way nothing changes on the disk. -/
theorem start_verified_iff_same_names {d : Disk} (hd : d.Sound) (before : List Call)
    {path : String} {verify : Bool} {s₁ : Schema} (hs₁ : s₁.isReadable)
    (hnew : ∀ number, (LogFile.withParents (run ⟨d, [], []⟩ before).disk path).openAppend path ≠
      .ok number)
    (hopened : ((run ⟨d, [], []⟩ before).step (.start path verify s₁)).2 = .opened)
    (after : List Call) (s₂ : Schema) :
    ∃ disk, disk = (run ⟨d, [], []⟩ (before ++ .start path verify s₁ :: after)).disk ∧
      ((∃ log, (LogFile.start disk path true s₂).result = .ok log) ↔ s₁.names = s₂.names) ∧
      (s₁.names ≠ s₂.names → (LogFile.start disk path true s₂).result =
        .error (.headerMismatch path s₂.headerLine s₁.headerLine)) ∧
      (LogFile.start disk path true s₂).disk = disk := by
  have hsince := ((Since.start hd).run before).step (.start path verify s₁)
  obtain ⟨number, hopen, hheader⟩ := header_of_step_start hnew hopened
  -- the file stays where it is, and stays at the beginning of what becomes of it
  have hopen' := (extends_run hsince after).openAppend hopen
  have hheader' := hheader.trans (bytes_prefix_run hsince after number)
  have hrun : run ⟨d, [], []⟩ (before ++ .start path verify s₁ :: after) =
      run ((run ⟨d, [], []⟩ before).step (.start path verify s₁)).1 after :=
    run_append _ before _
  rw [← hrun] at hopen' hheader'
  have hresult := LogFile.result_start_verified_of_header hs₁ s₂ hopen' hheader'
  refine ⟨_, rfl, ?_, fun hne => ?_, LogFile.disk_start_of_openAppend hopen'⟩
  · rw [hresult, ← Schema.mk.injEq]
    split
    · simp [*]
    · simp [*]
  · rw [hresult, if_neg fun heq => hne (congrArg Schema.names heq)]

/-- Two schemas whose names look the same when they are joined by commas, and a row that was added
with other columns. -/
theorem start_verified_iff_same_names_of_commas :
    Disk.empty.Sound ∧ (⟨["a,b"]⟩ : Schema).isReadable ∧
      (⟨["a,b"]⟩ : Schema).headerLine = (⟨["a", "b"]⟩ : Schema).headerLine ∧
      (∀ number, (LogFile.withParents (run ⟨Disk.empty, [], []⟩ []).disk "log.csv").openAppend
        "log.csv" ≠ .ok number) ∧
      ((run ⟨Disk.empty, [], []⟩ []).step (.start "log.csv" false ⟨["a,b"]⟩)).2 = .opened ∧
      ∃ disk, disk = (run ⟨Disk.empty, [], []⟩ ([] ++ .start "log.csv" false ⟨["a,b"]⟩ ::
          [.start "log.csv" false ⟨["a", "b"]⟩,
            .append 1 (Record.ofPayload ⟨[("b", .text "\n")]⟩ ⟨["a", "b"]⟩)])).disk ∧
        ((∃ log, (LogFile.start disk "log.csv" true ⟨["a", "b"]⟩).result = .ok log) ↔
          ["a,b"] = ["a", "b"]) ∧
        (["a,b"] ≠ ["a", "b"] → (LogFile.start disk "log.csv" true ⟨["a", "b"]⟩).result =
          .error (.headerMismatch "log.csv" "a,b" "a,b")) ∧
        (LogFile.start disk "log.csv" true ⟨["a", "b"]⟩).disk = disk := by
  have hschema : (⟨["a,b"]⟩ : Schema).isReadable := ⟨by simp, by simp⟩
  have hmissing : (LogFile.withParents (run ⟨Disk.empty, [], []⟩ []).disk "log.csv").openAppend
      "log.csv" = .error .missing := rfl
  have hnew : ∀ number, (LogFile.withParents (run ⟨Disk.empty, [], []⟩ []).disk
      "log.csv").openAppend "log.csv" ≠ .ok number :=
    fun number => by rw [hmissing]; exact nofun
  have hopened : ((run ⟨Disk.empty, [], []⟩ []).step (.start "log.csv" false ⟨["a,b"]⟩)).2 =
      .opened := rfl
  exact ⟨.empty, hschema, by decide +kernel, hnew, hopened,
    start_verified_iff_same_names .empty [] hschema hnew hopened _ _⟩

end Desk
end TelemetryLog
