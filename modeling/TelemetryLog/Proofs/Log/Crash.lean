import TelemetryLog.Proofs.Csv.Cut
import TelemetryLog.Proofs.Log.Sessions

/-!
# A crash while a row is being added

When the machine goes down while a record is being added, the file may break off anywhere between
the end it had before and the end it would have had.  Whatever stands there then, the header and the
rows of all earlier records read as before, and what is there of the last one is at most one row
(`crash_keeps_rows`).

Nothing is said about how such a log goes on: the next row is written directly behind the broken
one, and `Proofs.Log.Resume` says what becomes of it.

## What a crash is

A crash is any list of bytes between the old contents of the file and the new ones: the old contents
are a first part of it, and it is a first part of the new ones.  So it may break off inside a field,
inside a character, between quotes, or between the two bytes of a line end, and it may lose the
record or keep all of it.  Earlier rows are safe because they had been synced when their record was
added; a medium that loses bytes from the middle of a file is not covered.

That the reader copes with it is a fact about CSV and has nothing to do with logs: the part of a row
that is there reads as fields of which all but the last are the ones that were written, and the last
is a part of its field (`Proofs.Csv.Cut`).  A part of a row may well be no row at all, if nothing or
only a quote is there.
-/

set_option autoImplicit false

namespace TelemetryLog

namespace LogFile

variable {schema : Schema} {records : List Record} {r : Record} {p : List UInt8}

/-- Some first bytes of a row, behind a log, leave the rows of the log as they are. -/
theorem rows_logBytes_append_prefix (hschema : schema.isReadable)
    (hrecords : ∀ r ∈ records, r.schema = schema) (hr : r.schema = schema) (hp : p <+: rowOf r) :
    Csv.rows (logBytes schema records ++ p) = logRows schema records ∨
      ∃ row, Csv.IsCut row (r.fields.map Utf8.encode) ∧
        Csv.rows (logBytes schema records ++ p) = logRows schema records ++ [row] := by
  obtain ⟨hne, hmark⟩ := hschema
  obtain ⟨name, names, hnames⟩ := List.exists_cons_of_ne_nil hne
  have hdrop : Csv.dropByteOrderMark (logBytes schema records ++ p) =
      logBytes schema records ++ p := by
    rw [logBytes, headerRow, hnames, List.append_assoc]
    exact Csv.dropByteOrderMark_encodeTexts (hmark name (by rw [hnames]; rfl)) _ _
  have hfs : r.fields.map Utf8.encode ≠ [] := map_fields_ne_nil (by rw [hr]; exact hne)
  rw [Csv.rows, hdrop, logBytes_eq, Csv.Reader.run_append,
    Csv.Reader.run_flatMap_encodeRow [] (ne_nil_of_mem_logRows hne hrecords), List.append_nil]
  rcases Csv.Reader.endsCut_of_prefix_encodeRow (logRows schema records).reverse hfs hp with
    hnone | ⟨row, hcut, hlast⟩
  · exact .inl (by rw [hnone, List.reverse_reverse])
  · exact .inr ⟨row, hcut, by rw [hlast]; simp⟩

end LogFile

namespace Session

variable {path : String} {schema : Schema} {s : Session} {number : Nat}

/-- Adding a record adds its row to the file, or nothing if the log is not open. -/
theorem Kept.bytes_add {d₁ : Disk} (h : Kept path schema d₁ number s) (p : Payload) :
    (s.step path schema (.add p)).disk.bytes number = s.disk.bytes number ∨
      (s.step path schema (.add p)).disk.bytes number =
        s.disk.bytes number ++ LogFile.rowOf (Record.ofPayload p schema) := by
  cases hlog : s.log with
  | none =>
    rw [Session.step, hlog]
    exact .inl rfl
  | some log =>
    have hadded : (s.step path schema (.add p)).added =
        s.added ++ [Record.ofPayload p log.schema] := by
      rw [Session.step, hlog]
    have hschema := (h.step (.add p)).schemas
    rw [hadded] at hschema
    obtain rfl : log.schema = schema := hschema (.ofPayload p log.schema) (by simp)
    refine .inr ?_
    rw [(h.step (.add p)).bytes, hadded, h.bytes, List.flatMap_append, List.flatMap_singleton,
      List.append_assoc]

/-- **A crash loses at most the record that is being added.**  However a log was used since it was
made, and wherever its file breaks off between the end it has and the end it would have with one
more record, it reads as its header and the rows of all earlier records, and at most one row more:
some of the fields of that record in full and a piece of the next one. -/
theorem crash_keeps_rows {d : Disk} (hschema : schema.isReadable)
    (hnew : ∀ number, (LogFile.withParents d path).openAppend path ≠ .ok number) {verify : Bool}
    {log : LogFile} (hstart : (LogFile.start d path verify schema).result = .ok log)
    (actions : List Action) (p : Payload) :
    ∃ s, s = run path schema { disk := d } (.start verify :: actions) ∧
      ∃ before after, s.disk.read path = .ok before ∧
        (s.step path schema (.add p)).disk.read path = .ok after ∧
        ∀ n, before.length ≤ n → n ≤ after.length →
          ∃ last,
            Csv.rows (after.take n) =
                (schema.names.map Utf8.encode ::
                  s.added.map fun r => r.fields.map Utf8.encode) ++ last ∧
              (last = [] ∨ ∃ row, last = [row] ∧
                Csv.IsCut row ((Record.ofPayload p schema).fields.map Utf8.encode)) := by
  obtain ⟨d₁, hheader, hmade⟩ := kept_of_start hnew hstart
  have hkept := hmade.run actions
  rw [← run_cons] at hkept
  generalize run path schema { disk := d } (.start verify :: actions) = s at hkept
  refine ⟨s, rfl, s.disk.bytes log.number, (s.step path schema (.add p)).disk.bytes log.number,
    ?_, ?_, fun n hn hn' => ?_⟩
  · rw [Disk.read, hkept.opens]
  · rw [Disk.read, (hkept.step (.add p)).opens]
  · -- what is there of the new row is a piece of it, also when the record was not added at all
    obtain ⟨piece, hpiece, htake⟩ : ∃ piece, piece <+: LogFile.rowOf (Record.ofPayload p schema) ∧
        ((s.step path schema (.add p)).disk.bytes log.number).take n =
          LogFile.logBytes schema s.added ++ piece := by
      have hbytes : s.disk.bytes log.number = LogFile.logBytes schema s.added := by
        rw [hkept.bytes, hheader, LogFile.logBytes]
      rcases hkept.bytes_add p with hnone | hrow
      · rw [hnone, List.take_of_length_le hn, hbytes]
        exact ⟨[], List.nil_prefix, (List.append_nil _).symm⟩
      · rw [hrow, List.take_append, List.take_of_length_le hn, hbytes]
        exact ⟨_, List.take_prefix _ _, rfl⟩
    rw [htake]
    rcases LogFile.rows_logBytes_append_prefix hschema hkept.schemas rfl hpiece with
      hrows | ⟨row, hcut, hrows⟩
    · exact ⟨[], by rw [hrows, List.append_nil]; rfl, .inl rfl⟩
    · exact ⟨[row], hrows, .inr ⟨row, rfl, hcut⟩⟩

/-- Two columns, one record before the crash, and a field with quotes and line ends on the way. -/
theorem crash_keeps_rows_of_quoted :
    (⟨["a", "b"]⟩ : Schema).isReadable ∧
      (∀ number, (LogFile.withParents Disk.empty "log.csv").openAppend "log.csv" ≠ .ok number) ∧
      (LogFile.start Disk.empty "log.csv" false ⟨["a", "b"]⟩).result =
        .ok ⟨"log.csv", ⟨["a", "b"]⟩, 0, 0⟩ ∧
      ∃ s, s = run "log.csv" ⟨["a", "b"]⟩ { disk := Disk.empty }
          [.start false, .add ⟨[("b", .text "1\r\n")]⟩] ∧
        ∃ before after, s.disk.read "log.csv" = .ok before ∧
          (s.step "log.csv" ⟨["a", "b"]⟩ (.add ⟨[("a", .text "\"\r\n,")]⟩)).disk.read "log.csv" =
            .ok after ∧
          ∀ n, before.length ≤ n → n ≤ after.length →
            ∃ last,
              Csv.rows (after.take n) =
                  (["a", "b"].map Utf8.encode ::
                    s.added.map fun r => r.fields.map Utf8.encode) ++ last ∧
                (last = [] ∨ ∃ row, last = [row] ∧
                  Csv.IsCut row ((Record.ofPayload ⟨[("a", .text "\"\r\n,")]⟩
                    ⟨["a", "b"]⟩).fields.map Utf8.encode)) := by
  have hschema : (⟨["a", "b"]⟩ : Schema).isReadable := ⟨by simp, by simp⟩
  have hmissing : (LogFile.withParents Disk.empty "log.csv").openAppend "log.csv" =
      .error .missing := rfl
  have hnew : ∀ number,
      (LogFile.withParents Disk.empty "log.csv").openAppend "log.csv" ≠ .ok number :=
    fun number => by rw [hmissing]; exact nofun
  have hstart : (LogFile.start Disk.empty "log.csv" false ⟨["a", "b"]⟩).result =
      .ok ⟨"log.csv", ⟨["a", "b"]⟩, 0, 0⟩ := rfl
  exact ⟨hschema, hnew, hstart, crash_keeps_rows hschema hnew hstart _ _⟩

end Session
end TelemetryLog
