import TelemetryLog.LogFile
import TelemetryLog.Proofs.Disk.Parents

/-!
# What opening a log does

Opening a log makes the directories that lead to it, and then one of three things happens
(`start_cases`): a file is made that holds the header row and nothing else, a file that is there is
opened as it is, or the attempt fails and the files are as before.

Where a file is, nothing is made at all, and opening it fails only if its header is to be verified
and is another one (`start_of_openAppend`).

These are the facts about `LogFile.start` that every other module under `Proofs.Log` uses; none of
them unfolds it.  They speak of the result and of the disk, and leave out what is told on the way.
The disk after the directories have been made has a name of its own, `withParents`, since a path can
lead somewhere else once a directory is there: with `new/../log.csv` there is no file to open until
`new` has been made, and after that there may be an old one.
-/

set_option autoImplicit false

namespace TelemetryLog
namespace LogFile

/-- The disk after the directories that lead to a path have been made. -/
def withParents (d : Disk) (path : String) : Disk := (makeParents d path).1

variable {d : Disk} {path : String} {verify : Bool} {schema : Schema}

/-- What came of opening the file that is there. -/
theorem attach_cases (d : Disk) (path : String) (schema : Schema) (events : List Event) :
    (attach d path schema events).disk = d ∧
      ((∃ number, d.openAppend path = .ok number ∧
          (attach d path schema events).result = .ok ⟨path, schema, number, 0⟩) ∨
        ∃ e, (attach d path schema events).result = .error e) := by
  rw [attach]
  cases h : d.openAppend path with
  | error e => exact ⟨rfl, .inr ⟨_, rfl⟩⟩
  | ok number => exact ⟨rfl, .inl ⟨number, rfl, rfl⟩⟩

/-- A log that is made holds the header row. -/
theorem startIn_of_create {number : Nat} {d' : Disk} (h : d.create path = .ok (number, d')) :
    (startIn d path verify schema).result = .ok ⟨path, schema, number, 0⟩ ∧
      (startIn d path verify schema).disk = d'.append number (headerRow schema) := by
  have hopen : (d'.append number (headerRow schema)).openAppend path = .ok number := by
    rw [Disk.openAppend_append]
    exact Disk.openAppend_of_create h
  simp [startIn, ensureHeader, h, attach, hopen]

/-- Opening a log makes it, finds it, or fails. -/
theorem start_cases (d : Disk) (path : String) (verify : Bool) (schema : Schema) :
    (∃ number d', (withParents d path).create path = .ok (number, d') ∧
        (start d path verify schema).result = .ok ⟨path, schema, number, 0⟩ ∧
        (start d path verify schema).disk = d'.append number (headerRow schema)) ∨
      (start d path verify schema).disk = withParents d path ∧
        ((∃ number, (withParents d path).openAppend path = .ok number ∧
            (start d path verify schema).result = .ok ⟨path, schema, number, 0⟩) ∨
          ∃ e, (start d path verify schema).result = .error e) := by
  rw [withParents]
  unfold start
  cases hp : makeParents d path with
  | mk d₁ e =>
    cases e with
    | some e => exact .inr ⟨rfl, .inr ⟨_, rfl⟩⟩
    | none =>
      simp only
      cases hc : d₁.create path with
      | ok made =>
        obtain ⟨number, d'⟩ := made
        exact .inl ⟨number, d', rfl, startIn_of_create hc⟩
      | error e =>
        -- no file is made, and of the faults only one lets the opening go on
        refine .inr ?_
        rw [startIn, ensureHeader, hc]
        cases e with
        | taken =>
          simp only
          cases verify with
          | false => exact attach_cases ..
          | true =>
            cases hv : verifyHeader d₁ path schema with
            | error e => exact ⟨rfl, .inr ⟨_, rfl⟩⟩
            | ok u => exact attach_cases ..
        | _ => exact ⟨rfl, .inr ⟨_, rfl⟩⟩

/-- An open log has the path, the columns and the file it was opened for. -/
theorem of_start_eq_ok {log : LogFile} (h : (start d path verify schema).result = .ok log) :
    log.path = path ∧ log.schema = schema ∧
      (start d path verify schema).disk.openAppend path = .ok log.number := by
  rcases start_cases d path verify schema with
    ⟨number, d', hc, hr, hd⟩ | ⟨hd, ⟨number, ho, hr⟩ | ⟨e, hr⟩⟩
  · rw [hr] at h
    cases h
    rw [hd, Disk.openAppend_append]
    exact ⟨rfl, rfl, Disk.openAppend_of_create hc⟩
  · rw [hr] at h
    cases h
    rw [hd]
    exact ⟨rfl, rfl, ho⟩
  · rw [hr] at h
    cases h

/-- No rows have been added to a log that has just been opened. -/
theorem rows_of_start_eq_ok {log : LogFile} (h : (start d path verify schema).result = .ok log) :
    log.rows = 0 := by
  rcases start_cases d path verify schema with ⟨_, _, -, hr, -⟩ | ⟨-, ⟨_, -, hr⟩ | ⟨_, hr⟩⟩
  all_goals
    rw [hr] at h
    cases h
  · rfl
  · rfl

theorem sound_start (hd : d.Sound) : (start d path verify schema).disk.Sound := by
  have hparents : (withParents d path).Sound := hd.makeDirectories _
  rcases start_cases d path verify schema with ⟨number, d', hc, -, hdisk⟩ | ⟨hdisk, -⟩
  · rw [hdisk]
    exact (hparents.create hc).append _ _
  · rw [hdisk]
    exact hparents

/-! ## Logs that are there -/

section Existing

variable {number : Nat} (h : d.openAppend path = .ok number)

include h

theorem makeParents_of_openAppend : makeParents d path = (d, none) :=
  Disk.makeDirectories_parentText h

theorem ensureHeader_of_openAppend :
    ensureHeader d path schema =
      ⟨.ok false, d, [tell .debug ("Log file " ++ path ++ " exists, keeping its header")]⟩ := by
  rw [ensureHeader, Disk.create_of_openAppend h]

theorem disk_start_of_openAppend : (start d path verify schema).disk = d := by
  have hparents : withParents d path = d := by rw [withParents, makeParents_of_openAppend h]
  rcases start_cases d path verify schema with ⟨number', d', hc, -, -⟩ | ⟨hd, -⟩
  · rw [hparents, Disk.create_of_openAppend h] at hc
    cases hc
  · rw [hd, hparents]

/-- A log that is there opens, if its header is the right one or nobody asks. -/
theorem start_of_openAppend (hverify : verify = true → verifyHeader d path schema = .ok ()) :
    (start d path verify schema).result = .ok ⟨path, schema, number, 0⟩ := by
  rw [start, makeParents_of_openAppend h]
  simp only [startIn, ensureHeader_of_openAppend h]
  cases verify with
  | false => simp [attach, h]
  | true => simp [attach, h, hverify rfl]

end Existing

end LogFile
end TelemetryLog
