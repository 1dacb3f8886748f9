import TelemetryLog.Csv.Reader
import TelemetryLog.Proofs.Text.Utf8

/-!
# Rows read back as they were written

The reader stands before a row when it starts, and again after every row that it has read
(`run_encodeRow`).  So the rows of a file that was written row by row are the rows that were
written, in order (`rows_flatMap_encodeRow`), unless the file happens to begin like a byte order
mark.

## How it goes

A field is followed by a comma or by the end of its row, and the reader only knows that it is over
when that comes.  So what is proved of a field is where the reader stands behind it
(`AfterField`), and the byte that follows ends it (`step_comma`, `step_cr`).

Three things stand in the way of the simple argument.

* An empty field outside quotes leaves no trace in the reader, which is then still where it was.
* A row of one empty field would be an empty line, and the reader skips those.  It is written as two
  quotes, and has a case of its own throughout.
* A row without fields is written in the same way, so it is read as a row of one empty field.  It is
  left out by a hypothesis.

Rows end with CR LF, and it is the CR that ends one; the LF behind it is an empty line to the
reader.
-/

set_option autoImplicit false

namespace TelemetryLog
namespace Csv
namespace Reader

variable {s t : State} {f : List UInt8}

theorem run_nil (s : State) : run s [] = s := rfl

theorem run_cons (s : State) (b : UInt8) (bs : List UInt8) :
    run s (b :: bs) = run (step s b) bs := rfl

/-! ## One field -/

/-- Is the machine before a field? -/
def State.beforeField (s : State) : Prop :=
  (s.mode = .rowStart ∨ s.mode = .fieldStart) ∧ s.field = []

/-- The machine has read a field, and whatever ends it comes next.  An empty field outside quotes
leaves no trace. -/
structure AfterField (s : State) (f : List UInt8) (t : State) : Prop where
  /-- The field is there. -/
  field : t.field = f.reverse
  /-- The fields before it stay. -/
  fields : t.fields = s.fields
  /-- The rows before it stay. -/
  rows : t.rows = s.rows
  /-- The machine is outside quotes. -/
  mode : t.mode = .plain ∨ t.mode = .closing ∨ f = [] ∧ t.mode = s.mode

theorem isSpecial_eq_false_iff {b : UInt8} :
    isSpecial b = false ↔ b ≠ comma ∧ b ≠ mark ∧ isLineEnd b = false := by
  simp [isSpecial, and_assoc]

theorem plainByte_of_not_special {b : UInt8} (h : isSpecial b = false) (s : State) :
    s.plainByte b = { s with mode := .plain, field := b :: s.field } := by
  obtain ⟨hcomma, -, hend⟩ := isSpecial_eq_false_iff.1 h
  simp [State.plainByte, hcomma, hend]

/-- Bytes that need no quotes are read as they are. -/
theorem run_plain (hs : s.mode = .plain) {bs : List UInt8}
    (h : ∀ b ∈ bs, isSpecial b = false) :
    run s bs = { s with field := bs.reverse ++ s.field } := by
  induction bs generalizing s with
  | nil => rfl
  | cons b bs ih =>
    have hb := h b List.mem_cons_self
    rw [run_cons, step, hs]
    simp only [plainByte_of_not_special hb]
    rw [ih rfl fun b hmem => h b (List.mem_cons_of_mem _ hmem)]
    obtain ⟨mode, field, fields, rows⟩ := s
    cases hs
    simp

/-- Inside quotes every byte is read as it is, a quote by its double. -/
theorem run_doubled (hs : s.mode = .quoted) (bs : List UInt8) :
    run s (doubled bs) = { s with field := bs.reverse ++ s.field } := by
  induction bs generalizing s with
  | nil => rfl
  | cons b bs ih =>
    obtain ⟨mode, field, fields, rows⟩ := s
    cases hs
    rw [doubled, List.flatMap_cons, run_append, ← doubled]
    by_cases hb : b = mark
    · rw [if_pos hb, run_cons, run_cons]
      simp only [step, if_pos]
      rw [run_nil, ih rfl]
      simp [hb]
    · rw [if_neg hb, run_cons]
      simp only [step, if_neg hb]
      rw [run_nil, ih rfl]
      simp

/-- A field is read up to whatever ends it. -/
theorem afterField_encodeField (hs : s.beforeField) (f : List UInt8) :
    AfterField s f (run s (encodeField f)) := by
  obtain ⟨mode, field, fields, rows⟩ := s
  obtain ⟨hmode, hfield⟩ := hs
  simp only at hmode hfield
  subst hfield
  rw [encodeField]
  split
  · have hopen : step ⟨mode, [], fields, rows⟩ mark = ⟨.quoted, [], fields, rows⟩ := by
      rcases hmode with rfl | rfl <;> rfl
    rw [run_cons, hopen, run_append, run_doubled rfl]
    exact ⟨by simp [run, step], rfl, rfl, .inr (.inl rfl)⟩
  · rename_i hplain
    have hplain : ∀ b ∈ f, isSpecial b = false := by simpa using hplain
    cases f with
    | nil => exact ⟨rfl, rfl, rfl, .inr (.inr ⟨rfl, rfl⟩)⟩
    | cons b bs =>
      have hb := hplain b List.mem_cons_self
      obtain ⟨-, hmark, hend⟩ := isSpecial_eq_false_iff.1 hb
      have hfirst : step ⟨mode, [], fields, rows⟩ b = ⟨.plain, [b], fields, rows⟩ := by
        rcases hmode with rfl | rfl <;>
          simp [step, State.firstByte, hmark, hend, plainByte_of_not_special hb]
      rw [run_cons, hfirst, run_plain rfl fun b hmem => hplain b (List.mem_cons_of_mem _ hmem)]
      exact ⟨by simp, rfl, rfl, .inl rfl⟩

/-! ## One row -/

/-- A comma ends a field. -/
theorem step_comma (hs : s.beforeField) (ht : AfterField s f t) :
    step t comma = { s with mode := .fieldStart, field := [], fields := f :: s.fields } := by
  obtain ⟨smode, sfield, sfields, srows⟩ := s
  obtain ⟨mode, field, fields, rows⟩ := t
  obtain ⟨rfl, rfl, rfl, hmode⟩ := ht
  obtain ⟨hs, -⟩ := hs
  have hend : State.plainByte ⟨mode, f.reverse, fields, rows⟩ comma =
      ⟨.fieldStart, [], f :: fields, rows⟩ := by
    simp [State.plainByte, State.endField]
  rcases hmode with rfl | rfl | ⟨-, rfl⟩
  · exact hend
  · exact hend
  · rcases hs with rfl | rfl <;> exact hend

/-- A carriage return ends a row, unless it stands where the row would be empty. -/
theorem step_cr (hs : s.beforeField) (ht : AfterField s f t)
    (hrow : s.mode = .rowStart → f ≠ []) :
    step t cr = { rows := (f :: s.fields).reverse :: s.rows } := by
  obtain ⟨smode, sfield, sfields, srows⟩ := s
  obtain ⟨mode, field, fields, rows⟩ := t
  obtain ⟨rfl, rfl, rfl, hmode⟩ := ht
  obtain ⟨hs, -⟩ := hs
  have hend : State.plainByte ⟨mode, f.reverse, fields, rows⟩ cr =
      { rows := (f :: fields).reverse :: rows } := by
    simp [State.plainByte, State.endRow, isLineEnd, cr, comma]
  rcases hmode with rfl | rfl | ⟨hnil, rfl⟩
  · exact hend
  · exact hend
  · rcases hs with rfl | rfl
    · exact absurd hnil (hrow rfl)
    · exact hend

/-- Fields that do not look like an empty line are read up to the end of their row. -/
theorem run_encodeFields (hs : s.beforeField) (f : List UInt8) (fs : List (List UInt8))
    (hrow : s.mode = .rowStart → f :: fs ≠ [[]]) :
    run s (encodeFields (f :: fs) ++ [cr, lf]) =
      { rows := (s.fields.reverse ++ f :: fs) :: s.rows } := by
  have hf := afterField_encodeField hs f
  induction fs generalizing s f with
  | nil =>
    rw [encodeFields, run_append, run_cons,
      step_cr hs hf fun hmode hnil => hrow hmode (by rw [hnil])]
    simp [run, step, isLineEnd]
  | cons g fs ih =>
    have hs' : State.beforeField
        { s with mode := .fieldStart, field := [], fields := f :: s.fields } := ⟨.inr rfl, rfl⟩
    rw [encodeFields, List.append_assoc, run_append, List.cons_append, run_cons, step_comma hs hf,
      ih hs' g (fun h => absurd h (by simp)) (afterField_encodeField hs' g)]
    simp

/-- A row is read as its fields. -/
theorem run_encodeRow (rows : List (List (List UInt8))) {fs : List (List UInt8)} (h : fs ≠ []) :
    run { rows := rows } (encodeRow fs) = { rows := fs :: rows } := by
  rw [encodeRow]
  split
  · rename_i hbare
    have hfs : fs = [[]] := by
      rw [isBare, Bool.or_eq_true, beq_iff_eq, beq_iff_eq] at hbare
      exact hbare.resolve_left h
    rw [hfs]
    simp [run, step, State.firstByte, State.plainByte, State.endRow, isLineEnd, mark, cr, lf, comma]
  · rename_i hbare
    obtain ⟨f, fs, rfl⟩ := List.exists_cons_of_ne_nil h
    rw [run_encodeFields ⟨.inl rfl, rfl⟩ f fs fun _ hfs => hbare (by rw [hfs]; rfl)]
    rfl

/-- Rows are read one after the other. -/
theorem run_flatMap_encodeRow (done : List (List (List UInt8))) {rows : List (List (List UInt8))}
    (h : ∀ fs ∈ rows, fs ≠ []) :
    run { rows := done } (rows.flatMap encodeRow) = { rows := rows.reverse ++ done } := by
  induction rows generalizing done with
  | nil => rfl
  | cons fs rows ih =>
    rw [List.flatMap_cons, run_append, run_encodeRow done (h fs List.mem_cons_self),
      ih _ fun fs hmem => h fs (List.mem_cons_of_mem _ hmem)]
    simp

end Reader

/-! ## The byte order mark

Only one character is encoded by the three bytes of the mark, so a file begins with them only if its
first field does, and stands there without quotes. -/

theorem dropByteOrderMark_eq_self {bs : List UInt8}
    (h : ∀ more, bs ≠ 0xEF :: 0xBB :: 0xBF :: more) : dropByteOrderMark bs = bs := by
  unfold dropByteOrderMark
  split
  · exact absurd rfl (h _)
  · rfl

/-- A row begins with a quote or with its first field; a comma follows a first field that is
empty. -/
theorem encodeRow_cons (f : List UInt8) (fs : List (List UInt8)) :
    (∃ bs, encodeRow (f :: fs) = mark :: bs) ∨
      ∃ b bs, encodeRow (f :: fs) = f ++ b :: bs ∧ (f = [] → b = comma) := by
  rw [encodeRow]
  split
  · exact .inl ⟨_, rfl⟩
  · rename_i hbare
    by_cases hspecial : f.any isSpecial = true
    · refine .inl ?_
      cases fs with
      | nil => exact ⟨_, by rw [encodeFields, encodeField, if_pos hspecial, List.cons_append]⟩
      | cons g fs =>
        exact ⟨_, by rw [encodeFields, encodeField, if_pos hspecial, List.cons_append,
          List.cons_append]⟩
    · refine .inr ?_
      cases fs with
      | nil =>
        refine ⟨cr, [lf], by rw [encodeFields, encodeField, if_neg hspecial], ?_⟩
        rintro rfl
        exact absurd rfl hbare
      | cons g fs =>
        refine ⟨comma, encodeFields (g :: fs) ++ [cr, lf], ?_, fun _ => rfl⟩
        rw [encodeFields, encodeField, if_neg hspecial, List.append_assoc, List.cons_append]

/-- A file whose first field does not start with U+FEFF does not begin like a byte order mark. -/
theorem dropByteOrderMark_encodeTexts {name : String} (h : name.toList.head? ≠ some '\uFEFF')
    (names : List String) (rest : List UInt8) :
    dropByteOrderMark (encodeTexts (name :: names) ++ rest) =
      encodeTexts (name :: names) ++ rest := by
  refine dropByteOrderMark_eq_self fun more heq => ?_
  rw [encodeTexts, List.map_cons] at heq
  rcases encodeRow_cons (Utf8.encode name) (names.map Utf8.encode) with
    ⟨bs, hrow⟩ | ⟨b, bs, hrow, hcomma⟩
  · rw [hrow, List.cons_append] at heq
    exact absurd (List.cons.inj heq).1 (by decide)
  · rw [hrow, List.append_assoc] at heq
    rw [Utf8.encode] at heq hcomma
    cases hname : name.toList with
    | nil =>
      rw [hname] at heq hcomma
      have hb := (List.cons.inj heq).1
      rw [hcomma rfl] at hb
      exact absurd hb (by decide)
    | cons c cs =>
      rw [hname] at heq h
      exact h (by rw [Utf8.eq_of_encodeChars_eq_mark heq]; rfl)

/-! ## Files -/

/-- A file that is written row by row reads as the rows that were written. -/
theorem rows_flatMap_encodeRow {rows : List (List (List UInt8))} (h : ∀ fs ∈ rows, fs ≠ [])
    (hmark : dropByteOrderMark (rows.flatMap encodeRow) = rows.flatMap encodeRow) :
    Csv.rows (rows.flatMap encodeRow) = rows := by
  rw [Csv.rows, hmark, Reader.run_flatMap_encodeRow [] h]
  simp [Reader.finish]

end Csv
end TelemetryLog
