import TelemetryLog.Proofs.Csv.RoundTrip

/-!
# Files that go on

What a file holds already stays in front of what is added, but the reader takes what is added for
new rows only if it stands before a row where the old file ends (`EndsWithRow`).  Then the new rows
follow the old ones (`rows_append_flatMap`).  In any other place the first byte of a new row goes
into the row in progress, and no later byte takes it out again (`rows_append_ne`).

Both come from what one byte can do (`step_cases`): nothing, end the row in progress, or make it
longer.

The second statement is about a byte that needs no quotes, because such a byte means itself wherever
the reader stands.  To see that the row is not what it was, it is enough to look at all its bytes in
one list: whatever follows, the reader may begin new fields and end the row, but what the row holds
stays in it and the new byte has come to it.

A byte order mark in front of the file is dropped before anything else.  A file of one or two bytes
could be the beginning of one that is completed by what is added, and then both statements fail; so
they ask that the mark be dropped from the longer file just as from the shorter
(`dropByteOrderMark_append`).
-/

set_option autoImplicit false

namespace TelemetryLog
namespace Csv
namespace Reader

variable {s : State} {b : UInt8} {bs : List UInt8}

/-- The row in progress, if the file ended here. -/
def State.current (s : State) : List (List UInt8) := s.fields.reverse ++ [s.field.reverse]

theorem endRow_eq (s : State) : s.endRow = { rows := s.current :: s.rows } := by
  simp [State.endRow, State.current]

theorem finish_of_rowStart (h : s.mode = .rowStart) : finish s = s.rows.reverse := by
  rw [finish, h]

theorem finish_of_ne_rowStart (h : s.mode ≠ .rowStart) :
    finish s = s.rows.reverse ++ [s.current] := by
  have hrow : finish s = s.endRow.rows.reverse := by
    rw [finish]
    split
    · exact absurd ‹_› h
    · rfl
  rw [hrow, endRow_eq, List.reverse_cons]

/-! ## One byte

The row in progress is compared by all its bytes in one list (`State.current`, flattened).  Ending a
field does not change that list, so a byte can only leave it alone or add to it, until the row
ends. -/

/-- The row in progress has taken a byte in, or a mark that stands for no byte. -/
structure Grows (s t : State) : Prop where
  /-- A row is in progress. -/
  mode : t.mode ≠ .rowStart
  /-- The rows before it stay. -/
  rows : t.rows = s.rows
  /-- What it holds stays, and something may follow. -/
  current : s.current.flatten <+: t.current.flatten

theorem grows_push (s : State) (mode : Mode) (hmode : mode ≠ .rowStart) (b : UInt8) :
    Grows s { s with mode := mode, field := b :: s.field } :=
  ⟨hmode, rfl, ⟨[b], by simp [State.current]⟩⟩

theorem grows_mode (s : State) (mode : Mode) (hmode : mode ≠ .rowStart) :
    Grows s { s with mode := mode } :=
  ⟨hmode, rfl, List.prefix_rfl⟩

theorem grows_endField (s : State) : Grows s s.endField :=
  ⟨by simp [State.endField], rfl, by simp [State.current, State.endField]⟩

theorem plainByte_cases (s : State) (b : UInt8) :
    isLineEnd b = true ∧ s.plainByte b = s.endRow ∨ Grows s (s.plainByte b) := by
  rw [State.plainByte]
  split
  · exact .inr (grows_endField s)
  · split
    · exact .inl ⟨‹_›, rfl⟩
    · exact .inr (grows_push s .plain (by decide) b)

theorem firstByte_cases (s : State) (b : UInt8) :
    isLineEnd b = true ∧ s.firstByte b = s.endRow ∨ Grows s (s.firstByte b) := by
  rw [State.firstByte]
  split
  · exact .inr (grows_mode s .quoted (by decide))
  · exact plainByte_cases s b

/-- **What one byte can do**: nothing between two rows, end the row in progress, or make it
longer. -/
theorem step_cases (s : State) (b : UInt8) :
    s.mode = .rowStart ∧ step s b = s ∨ s.mode ≠ .rowStart ∧ step s b = s.endRow ∨
      Grows s (step s b) := by
  obtain ⟨mode, field, fields, rows⟩ := s
  cases mode with
  | rowStart =>
    by_cases hend : isLineEnd b = true
    · exact .inl ⟨rfl, if_pos hend⟩
    · rw [step]
      simp only [if_neg hend]
      rcases firstByte_cases ⟨.rowStart, field, fields, rows⟩ b with ⟨hend', -⟩ | hgrows
      · exact absurd hend' hend
      · exact .inr (.inr hgrows)
  | fieldStart =>
    rcases firstByte_cases ⟨.fieldStart, field, fields, rows⟩ b with ⟨-, hrow⟩ | hgrows
    · exact .inr (.inl ⟨by simp, hrow⟩)
    · exact .inr (.inr hgrows)
  | plain =>
    rcases plainByte_cases ⟨.plain, field, fields, rows⟩ b with ⟨-, hrow⟩ | hgrows
    · exact .inr (.inl ⟨by simp, hrow⟩)
    · exact .inr (.inr hgrows)
  | quoted =>
    rw [step]
    simp only
    split
    · exact .inr (.inr (grows_mode _ .closing (by decide)))
    · exact .inr (.inr (grows_push ⟨.quoted, field, fields, rows⟩ .quoted (by decide) b))
  | closing =>
    rw [step]
    simp only
    split
    · exact .inr (.inr (grows_push ⟨.closing, field, fields, rows⟩ .quoted (by decide) b))
    · rcases plainByte_cases ⟨.closing, field, fields, rows⟩ b with ⟨-, hrow⟩ | hgrows
      · exact .inr (.inl ⟨by simp, hrow⟩)
      · exact .inr (.inr hgrows)

/-- A byte that needs no quotes goes into the row in progress, wherever that is. -/
theorem step_of_not_special (hs : s.mode ≠ .rowStart) (hb : isSpecial b = false) :
    (step s b).mode ≠ .rowStart ∧ (step s b).rows = s.rows ∧
      (step s b).current.flatten = s.current.flatten ++ [b] := by
  obtain ⟨-, hmark, -⟩ := isSpecial_eq_false_iff.1 hb
  obtain ⟨mode, field, fields, rows⟩ := s
  obtain ⟨mode', hmode', hstep⟩ : ∃ mode', mode' ≠ .rowStart ∧
      step ⟨mode, field, fields, rows⟩ b = ⟨mode', b :: field, fields, rows⟩ := by
    cases mode with
    | rowStart => exact absurd rfl hs
    | quoted => exact ⟨.quoted, by decide, by simp [step, hmark]⟩
    | fieldStart =>
      exact ⟨.plain, by decide, by simp [step, State.firstByte, hmark, plainByte_of_not_special hb]⟩
    | plain => exact ⟨.plain, by decide, by simp [step, plainByte_of_not_special hb]⟩
    | closing => exact ⟨.plain, by decide, by simp [step, hmark, plainByte_of_not_special hb]⟩
  rw [hstep]
  exact ⟨hmode', rfl, by simp [State.current]⟩

/-! ## Many bytes -/

/-- Between two rows nothing is left of the one before. -/
theorem run_eq_of_rowStart (h : (run {} bs).mode = .rowStart) :
    run {} bs = { rows := (run {} bs).rows } := by
  suffices hclean : ∀ s : State, (s.mode = .rowStart → s = { rows := s.rows }) →
      (run s bs).mode = .rowStart → run s bs = { rows := (run s bs).rows } from
    hclean {} (fun _ => rfl) h
  clear h
  intro s hs
  induction bs generalizing s with
  | nil => exact hs
  | cons b bs ih =>
    rw [run_cons]
    refine ih _ ?_
    rcases step_cases s b with ⟨-, hsame⟩ | ⟨-, hend⟩ | hgrows
    · rw [hsame]
      exact hs
    · rw [hend, endRow_eq]
      exact fun _ => rfl
    · exact fun hmode => absurd hmode hgrows.mode

/-- Finished rows stay, whatever follows. -/
theorem exists_finish_run (s : State) (bs : List UInt8) :
    ∃ more, finish (run s bs) = s.rows.reverse ++ more := by
  induction bs generalizing s with
  | nil =>
    rw [run_nil]
    by_cases hmode : s.mode = .rowStart
    · exact ⟨[], by rw [finish_of_rowStart hmode, List.append_nil]⟩
    · exact ⟨_, finish_of_ne_rowStart hmode⟩
  | cons b bs ih =>
    rw [run_cons]
    obtain ⟨more, hmore⟩ := ih (step s b)
    rw [hmore]
    rcases step_cases s b with ⟨-, hsame⟩ | ⟨-, hend⟩ | hgrows
    · exact ⟨more, by rw [hsame]⟩
    · exact ⟨s.current :: more, by rw [hend, endRow_eq]; simp⟩
    · exact ⟨more, by rw [hgrows.rows]⟩

/-- What the row in progress holds stays in it. -/
theorem exists_finish_run_of_ne_rowStart (hs : s.mode ≠ .rowStart) (bs : List UInt8) :
    ∃ row more, finish (run s bs) = s.rows.reverse ++ row :: more ∧
      s.current.flatten <+: row.flatten := by
  induction bs generalizing s with
  | nil => exact ⟨s.current, [], finish_of_ne_rowStart hs, List.prefix_rfl⟩
  | cons b bs ih =>
    rw [run_cons]
    rcases step_cases s b with ⟨hmode, -⟩ | ⟨-, hend⟩ | hgrows
    · exact absurd hmode hs
    · obtain ⟨more, hmore⟩ := exists_finish_run s.endRow bs
      rw [hend, hmore, endRow_eq]
      exact ⟨s.current, more, by simp, List.prefix_rfl⟩
    · obtain ⟨row, more, hrow, hprefix⟩ := ih hgrows.mode
      exact ⟨row, more, by rw [hrow, hgrows.rows], hgrows.current.trans hprefix⟩

/-- Every row has a field. -/
theorem ne_nil_of_mem_finish (hs : ∀ row ∈ s.rows, row ≠ []) (bs : List UInt8) :
    ∀ row ∈ finish (run s bs), row ≠ [] := by
  have hcurrent : ∀ t : State, t.current ≠ [] := fun t => by simp [State.current]
  induction bs generalizing s with
  | nil =>
    intro row hrow
    rw [run_nil] at hrow
    by_cases hmode : s.mode = .rowStart
    · rw [finish_of_rowStart hmode, List.mem_reverse] at hrow
      exact hs row hrow
    · rw [finish_of_ne_rowStart hmode, List.mem_append, List.mem_reverse,
        List.mem_singleton] at hrow
      rcases hrow with hrow | rfl
      · exact hs row hrow
      · exact hcurrent s
  | cons b bs ih =>
    rw [run_cons]
    refine ih fun row hrow => ?_
    rcases step_cases s b with ⟨-, hsame⟩ | ⟨-, hend⟩ | hgrows
    · exact hs row (hsame ▸ hrow)
    · rw [hend, endRow_eq, List.mem_cons] at hrow
      rcases hrow with rfl | hrow
      · exact hcurrent s
      · exact hs row hrow
    · exact hs row (hgrows.rows ▸ hrow)

end Reader

/-! ## Files -/

/-- No row is in progress where the file ends: it has no row, or its last row has a line end. -/
def EndsWithRow (bs : List UInt8) : Prop :=
  (Reader.run {} (dropByteOrderMark bs)).mode = .rowStart

instance (bs : List UInt8) : Decidable (EndsWithRow bs) :=
  inferInstanceAs (Decidable (_ = _))

variable {bs : List UInt8}

theorem ne_nil_of_mem_rows (bs : List UInt8) : ∀ row ∈ rows bs, row ≠ [] :=
  Reader.ne_nil_of_mem_finish (s := {}) (by simp) _

/-- Whether a file starts with a byte order mark shows in its first three bytes. -/
theorem dropByteOrderMark_append (hnil : bs ≠ []) (hone : bs ≠ [0xEF]) (htwo : bs ≠ [0xEF, 0xBB])
    (more : List UInt8) : dropByteOrderMark (bs ++ more) = dropByteOrderMark bs ++ more := by
  by_cases hmark : ∃ rest, bs = 0xEF :: 0xBB :: 0xBF :: rest
  · obtain ⟨rest, rfl⟩ := hmark
    rfl
  · rw [dropByteOrderMark_eq_self fun rest heq => hmark ⟨rest, heq⟩]
    refine dropByteOrderMark_eq_self fun rest heq => ?_
    rcases bs with _ | ⟨a, _ | ⟨b, _ | ⟨c, bs⟩⟩⟩
    · exact hnil rfl
    · simp only [List.cons_append, List.cons.injEq] at heq
      exact hone (by rw [heq.1])
    · simp only [List.cons_append, List.cons.injEq] at heq
      exact htwo (by rw [heq.1, heq.2.1])
    · simp only [List.cons_append, List.cons.injEq] at heq
      exact hmark ⟨bs, by rw [heq.1, heq.2.1, heq.2.2.1]⟩

/-- A file that is more than a part of a byte order mark. -/
theorem dropByteOrderMark_append_of_header {fs : List (List UInt8)} (hheader : header bs = fs)
    (hfs : fs ≠ []) (htext : ∀ f ∈ fs, (Utf8.text? f).isSome) (more : List UInt8) :
    dropByteOrderMark (bs ++ more) = dropByteOrderMark bs ++ more := by
  refine dropByteOrderMark_append ?_ ?_ ?_ more
  · rintro rfl
    exact hfs hheader.symm
  · rintro rfl
    exact absurd (htext [0xEF] (by rw [← hheader]; decide)) (by decide +kernel)
  · rintro rfl
    exact absurd (htext [0xEF, 0xBB] (by rw [← hheader]; decide)) (by decide +kernel)

section Append

variable {more : List UInt8} (hmark : dropByteOrderMark (bs ++ more) = dropByteOrderMark bs ++ more)

include hmark

/-- Rows that are added where no row is in progress follow the rows that are there. -/
theorem rows_append_flatMap {new : List (List (List UInt8))} (hend : EndsWithRow bs)
    (hmore : more = new.flatMap encodeRow) (hnew : ∀ fs ∈ new, fs ≠ []) :
    rows (bs ++ more) = rows bs ++ new := by
  have hclean := Reader.run_eq_of_rowStart hend
  rw [rows, hmark, Reader.run_append, hclean, hmore, Reader.run_flatMap_encodeRow _ hnew, rows,
    Reader.finish_of_rowStart rfl, Reader.finish_of_rowStart hend]
  simp

/-- A byte that is added where a row is in progress goes into that row, so the rows that are there
do not stay. -/
theorem rows_append_ne {b : UInt8} {rest : List UInt8} (hend : ¬EndsWithRow bs)
    (hmore : more = b :: rest) (hb : isSpecial b = false) (new : List (List (List UInt8))) :
    rows (bs ++ more) ≠ rows bs ++ new := by
  obtain ⟨hmode, hrows, hcurrent⟩ := Reader.step_of_not_special hend hb
  obtain ⟨row, more', hrow, hprefix⟩ := Reader.exists_finish_run_of_ne_rowStart hmode rest
  intro heq
  rw [rows, hmark, Reader.run_append, hmore, Reader.run_cons, hrow, hrows, rows,
    Reader.finish_of_ne_rowStart hend, List.append_assoc, List.append_cancel_left_eq,
    List.singleton_append] at heq
  -- the row in progress would have to be as long as before
  rw [(List.cons.inj heq).1, hcurrent] at hprefix
  have hlen := hprefix.length_le
  rw [List.length_append, List.length_singleton] at hlen
  omega

end Append

end Csv
end TelemetryLog
