import TelemetryLog.Proofs.Csv.Continue
import TelemetryLog.Proofs.Log.Sessions

/-!
# Going on with a log that is there

A log that is there can hold anything.  Verifying its header looks at its first row only, while
records are added at its very end, and so it depends on that end what becomes of it.  If the file
ends with a whole row, every record that is added is one row more.  If a row is in progress there,
as after a crash, the next record is written into that row (`resume_keeps_rows_iff`); where this row
is the header, the log does not even open again (`header_glued_to_row`).

A schema without columns is no schema to go on with: a file without rows passes for its header, but
the row of a record without fields reads as one empty field.

## How it goes

* `Csv.EndsWithRow` (in `Proofs.Csv.Continue`) is the condition on the bytes of the file.  It is
  about where the reader stands behind them, before a row, and not about their last byte: a line
  feed may be inside quotes.
* If it holds, the rows of whatever is added are read as if they stood in a file of their own
  (`reads_on`).
* If it does not hold, some record shows it (`exists_not_reads_on`).  Its row begins with a byte
  that needs no quotes: wherever in a row the reader stands, such a byte goes into that row, and the
  row is no longer the one that was there.
* A byte order mark could still be in the making at the end of a very short file.  A file whose
  header has been verified against a schema with columns holds more than that
  (`dropByteOrderMark_append_of_verified`).

The main statement is an equivalence over files: for a file that is there, opens, and has been
verified, adding records always keeps the rows and the header just if the file ends with a row and
the schema has columns.  So the verification of the header is no protection against a file that was
cut off, which is what one would like to rely on after a crash.
-/

set_option autoImplicit false

namespace TelemetryLog

namespace LogFile

variable {d : Disk} {path : String} {schema : Schema} {bs : List UInt8}

theorem verifyHeader_eq_ok_iff (h : d.read path = .ok bs) :
    verifyHeader d path schema = .ok () ↔ textsOf 0 (Csv.header bs) = .ok schema.names := by
  rw [verifyHeader, h]
  simp only
  cases textsOf 0 (Csv.header bs) with
  | error e => simp
  | ok found =>
    simp only
    by_cases hfound : found = schema.names
    · simp [hfound]
    · simp [hfound]

/-- A row that is read as texts has as many fields, all of them well formed. -/
theorem of_textsOf_eq_ok {fs : List (List UInt8)} {names : List String} {index : Nat}
    (h : textsOf index fs = .ok names) :
    fs.length = names.length ∧ ∀ f ∈ fs, (Utf8.text? f).isSome := by
  induction fs generalizing index names with
  | nil =>
    cases h
    exact ⟨rfl, by simp⟩
  | cons f fs ih =>
    rw [textsOf] at h
    cases htext : Utf8.text? f with
    | none =>
      rw [htext] at h
      cases h
    | some t =>
      rw [htext] at h
      cases hrest : textsOf (index + 1) fs with
      | error e =>
        rw [hrest] at h
        cases h
      | ok ts =>
        rw [hrest] at h
        cases h
        obtain ⟨hlen, hall⟩ := ih hrest
        refine ⟨by simp [hlen], ?_⟩
        rintro f' hf'
        rcases List.mem_cons.1 hf' with rfl | hf'
        · rw [htext]
          rfl
        · exact hall f' hf'

/-- A log that is there opens with verification only if its header is the right one. -/
theorem verifyHeader_of_start {number : Nat} {log : LogFile} (h : d.openAppend path = .ok number)
    (hstart : (start d path true schema).result = .ok log) :
    verifyHeader d path schema = .ok () := by
  rw [start, makeParents_of_openAppend h] at hstart
  simp only [startIn, ensureHeader_of_openAppend h, if_pos] at hstart
  cases hverify : verifyHeader d path schema with
  | ok u => rfl
  | error e =>
    rw [hverify] at hstart
    cases hstart

/-- A file whose header has been verified is more than a part of a byte order mark. -/
theorem dropByteOrderMark_append_of_verified (hne : schema.names ≠ [])
    (h : textsOf 0 (Csv.header bs) = .ok schema.names) (more : List UInt8) :
    Csv.dropByteOrderMark (bs ++ more) = Csv.dropByteOrderMark bs ++ more := by
  obtain ⟨hlen, htext⟩ := of_textsOf_eq_ok h
  refine Csv.dropByteOrderMark_append_of_header rfl (fun hnil => hne ?_) htext more
  rw [hnil] at hlen
  exact List.length_eq_zero_iff.1 hlen.symm

/-- The header stays when rows follow. -/
theorem textsOf_header_append {more : List UInt8} {new : List (List (List UInt8))}
    (hne : schema.names ≠ []) (h : textsOf 0 (Csv.header bs) = .ok schema.names)
    (hrows : Csv.rows (bs ++ more) = Csv.rows bs ++ new) :
    textsOf 0 (Csv.header (bs ++ more)) = .ok schema.names := by
  rw [Csv.header] at h ⊢
  rw [hrows]
  cases hold : Csv.rows bs with
  | nil =>
    rw [hold] at h
    exact absurd (Except.ok.inj h).symm hne
  | cons row rows =>
    rw [hold] at h
    exact h

/-- Some record has a row that starts with a byte that needs no quotes. -/
theorem exists_rowOf_eq_cons (hne : schema.names ≠ []) :
    ∃ p b rest, rowOf (Record.ofPayload p schema) = b :: rest ∧ Csv.isSpecial b = false := by
  obtain ⟨name, names, hnames⟩ := List.exists_cons_of_ne_nil hne
  obtain ⟨fs, hfs⟩ : ∃ fs, (Record.ofPayload ⟨[(name, .text "0")]⟩ schema).fields = "0" :: fs := by
    simp [Record.fields, Record.ofPayload, hnames, Payload.get?, Json.find?, fieldOf]
  refine ⟨⟨[(name, .text "0")]⟩, 0x30, ?_⟩
  rw [rowOf, hfs, Csv.encodeTexts, List.map_cons]
  cases fs with
  | nil => exact ⟨_, rfl, by decide⟩
  | cons f fs => exact ⟨_, rfl, by decide⟩

end LogFile

namespace Session

variable {path : String} {schema : Schema} {number : Nat} {bs : List UInt8} {s : Session}

/-- A log that is there and opens: every record that is added is written behind what is there. -/
theorem read_adds {d : Disk} {log : LogFile} {verify : Bool}
    (hopen : d.openAppend path = .ok number) (hlt : number < d.contents.length)
    (hstart : (LogFile.start d path verify schema).result = .ok log) (ps : List Payload) :
    (run path schema { disk := d } (.start verify :: ps.map .add)).disk.read path =
      .ok (d.bytes number ++ ps.flatMap fun p => LogFile.rowOf (Record.ofPayload p schema)) := by
  have hkept := (kept_of_openAppend hopen hlt schema).run (.start verify :: ps.map .add)
  have hlog : (step path schema { disk := d } (.start verify)).log = some log := by
    rw [step_start, hstart]
    rfl
  rw [hkept.read, run_cons, added_adds hlog, (LogFile.of_start_eq_ok hstart).2.1, step_start,
    List.nil_append, List.flatMap_map]

section Verified

variable (hne : schema.names ≠ []) (hheader : LogFile.textsOf 0 (Csv.header bs) = .ok schema.names)

include hne hheader

/-- Where the file ends with a whole row, every record that is added is one row more. -/
theorem reads_on (hend : Csv.EndsWithRow bs) (ps : List Payload) {d : Disk}
    (hread : d.read path =
      .ok (bs ++ ps.flatMap fun p => LogFile.rowOf (Record.ofPayload p schema))) :
    ∃ bs', d.read path = .ok bs' ∧
      Csv.rows bs' = Csv.rows bs ++
        ps.map (fun p => (Record.ofPayload p schema).fields.map Utf8.encode) ∧
      LogFile.verifyHeader d path schema = .ok () := by
  have hwritten : (ps.flatMap fun p => LogFile.rowOf (Record.ofPayload p schema)) =
      (ps.map fun p => (Record.ofPayload p schema).fields.map Utf8.encode).flatMap
        Csv.encodeRow := by
    rw [List.flatMap_map]
    rfl
  have hfields : ∀ fs ∈ ps.map fun p => (Record.ofPayload p schema).fields.map Utf8.encode,
      fs ≠ [] := by
    intro fs hfs
    obtain ⟨p, -, rfl⟩ := List.mem_map.1 hfs
    exact LogFile.map_fields_ne_nil hne
  have hrows := Csv.rows_append_flatMap
    (LogFile.dropByteOrderMark_append_of_verified hne hheader _) hend hwritten hfields
  exact ⟨_, hread, hrows, (LogFile.verifyHeader_eq_ok_iff hread).2
    (LogFile.textsOf_header_append hne hheader hrows)⟩

/-- Where a row is in progress, some record is written into it. -/
theorem exists_not_reads_on (hend : ¬Csv.EndsWithRow bs) :
    ∃ p : Payload, ∀ new,
      Csv.rows (bs ++ LogFile.rowOf (Record.ofPayload p schema)) ≠ Csv.rows bs ++ new := by
  obtain ⟨p, b, rest, hrow, hb⟩ := LogFile.exists_rowOf_eq_cons hne
  exact ⟨p, Csv.rows_append_ne (LogFile.dropByteOrderMark_append_of_verified hne hheader _) hend
    hrow hb⟩

end Verified

/-- **When a verified log goes on unharmed.**  Where a log is there and opens with its header
verified, adding records to it always gives the rows it had and one row for each of them, and a
header that is still the right one, just if the schema has columns and the file ends with a whole
row. -/
theorem resume_keeps_rows_iff {d : Disk} (hd : d.Sound) (hread : d.read path = .ok bs)
    {log : LogFile} (hstart : (LogFile.start d path true schema).result = .ok log) :
    (∀ ps : List Payload, ∃ s bs', s = run path schema { disk := d } (.start true :: ps.map .add) ∧
        s.disk.read path = .ok bs' ∧
        Csv.rows bs' = Csv.rows bs ++
          ps.map (fun p => (Record.ofPayload p schema).fields.map Utf8.encode) ∧
        LogFile.verifyHeader s.disk path schema = .ok ()) ↔
      schema.names ≠ [] ∧ Csv.EndsWithRow bs := by
  obtain ⟨number, hopen, rfl⟩ := Disk.read_eq_ok_iff.1 hread
  have hadds := read_adds hopen (hd.of_openAppend hopen) hstart
  have hheader := (LogFile.verifyHeader_eq_ok_iff hread).1
    (LogFile.verifyHeader_of_start hopen hstart)
  constructor
  · intro hkeeps
    have hne : schema.names ≠ [] := by
      -- the row of a record without fields is not read as a row without fields
      intro hnil
      obtain ⟨s, bs', -, -, hrows, -⟩ := hkeeps [⟨[]⟩]
      have hrow : [] ∈ Csv.rows bs' := by
        rw [hrows]
        simp [Record.fields, Record.ofPayload, hnil]
      exact Csv.ne_nil_of_mem_rows bs' [] hrow rfl
    refine ⟨hne, Decidable.byContradiction fun hend => ?_⟩
    obtain ⟨p, hrows'⟩ := exists_not_reads_on hne hheader hend
    obtain ⟨s, bs', rfl, hread', hrows, -⟩ := hkeeps [p]
    rw [hadds [p], List.flatMap_singleton] at hread'
    exact hrows' _ (Except.ok.inj hread' ▸ hrows)
  · rintro ⟨hne, hend⟩ ps
    obtain ⟨bs', hrest⟩ := reads_on hne hheader hend ps (hadds ps)
    exact ⟨_, bs', rfl, hrest⟩

/-- A log with a header of two columns and a row with a line end in it goes on unharmed. -/
theorem resume_keeps_rows_of_whole_rows :
    ∃ d, d = Disk.ofFiles [("log.csv", Utf8.encode "a,\"b\"\r\n\"1\r\n\",\r\n")] ∧ d.Sound ∧
      d.read "log.csv" = .ok (Utf8.encode "a,\"b\"\r\n\"1\r\n\",\r\n") ∧
      (LogFile.start d "log.csv" true ⟨["a", "b"]⟩).result =
        .ok ⟨"log.csv", ⟨["a", "b"]⟩, 0, 0⟩ ∧
      ∀ ps : List Payload, ∃ s bs',
        s = run "log.csv" ⟨["a", "b"]⟩ { disk := d } (.start true :: ps.map .add) ∧
        s.disk.read "log.csv" = .ok bs' ∧
        Csv.rows bs' = Csv.rows (Utf8.encode "a,\"b\"\r\n\"1\r\n\",\r\n") ++
          ps.map (fun p => (Record.ofPayload p ⟨["a", "b"]⟩).fields.map Utf8.encode) ∧
        LogFile.verifyHeader s.disk "log.csv" ⟨["a", "b"]⟩ = .ok () := by
  have hsound := Disk.sound_ofFiles [("log.csv", Utf8.encode "a,\"b\"\r\n\"1\r\n\",\r\n")]
  have hheader : Csv.header (Utf8.encode "a,\"b\"\r\n\"1\r\n\",\r\n") =
      ["a", "b"].map Utf8.encode := by decide
  have hstart : (LogFile.start (Disk.ofFiles
      [("log.csv", Utf8.encode "a,\"b\"\r\n\"1\r\n\",\r\n")]) "log.csv" true ⟨["a", "b"]⟩).result =
        .ok ⟨"log.csv", ⟨["a", "b"]⟩, 0, 0⟩ :=
    LogFile.start_of_openAppend rfl fun _ => LogFile.verifyHeader_of_header rfl hheader
  refine ⟨_, rfl, hsound, rfl, hstart, ?_⟩
  exact (resume_keeps_rows_iff hsound rfl hstart).2 ⟨by simp, by decide⟩

/-- A header without its line end passes verification, and the first record that is added makes
another one of it. -/
theorem header_glued_to_row :
    ∃ d, d = Disk.ofFiles [("log.csv", Utf8.encode "voltage")] ∧
      (LogFile.start d "log.csv" true ⟨["voltage"]⟩).result =
        .ok ⟨"log.csv", ⟨["voltage"]⟩, 0, 0⟩ ∧
      ∃ s, s = run "log.csv" ⟨["voltage"]⟩ { disk := d }
          [.start true, .add ⟨[("voltage", .text "5")]⟩] ∧
        s.disk.read "log.csv" = .ok (Utf8.encode "voltage5\r\n") ∧
        Csv.rows (Utf8.encode "voltage5\r\n") = [[Utf8.encode "voltage5"]] ∧
        LogFile.verifyHeader s.disk "log.csv" ⟨["voltage"]⟩ =
          .error (.headerMismatch "log.csv" "voltage" "voltage5") := by
  have hstart : (LogFile.start (Disk.ofFiles [("log.csv", Utf8.encode "voltage")]) "log.csv" true
      ⟨["voltage"]⟩).result = .ok ⟨"log.csv", ⟨["voltage"]⟩, 0, 0⟩ :=
    LogFile.start_of_openAppend rfl fun _ =>
      LogFile.verifyHeader_of_header rfl
        (show Csv.header (Utf8.encode "voltage") = ["voltage"].map Utf8.encode by decide)
  have hread := read_adds rfl (by decide) hstart [⟨[("voltage", .text "5")]⟩]
  refine ⟨_, rfl, hstart, _, rfl, hread, by decide, ?_⟩
  exact LogFile.verifyHeader_of_header hread
    (show Csv.header (Utf8.encode "voltage5\r\n") = ["voltage5"].map Utf8.encode by decide)

end Session
end TelemetryLog
