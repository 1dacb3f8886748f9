import TelemetryLog.Proofs.Csv.RoundTrip

/-!
# Rows that break off

A file that breaks off while a row is being written ends in some first bytes of that row.  Wherever
the cut falls — after a comma, inside quotes, between the two quotes that stand for one, between CR
and LF — the reader finds the rows before it as they were, and of the row that was cut either
nothing or one row (`endsCut_of_prefix_encodeRow`): some of its fields in full, and a piece of the
next one.

The proof goes the way of the round trip: one field, then one row.

A piece of a field without quotes is itself such a field, so the round trip has been proved for it
already.  Inside quotes the argument is repeated byte by byte (`run_prefix_doubled`), because the
reader may stop between the two quotes that stand for one and then takes the first of them for the
end of the field.  The piece is right even then: that quote has not been read yet.

The statement is about bytes and not about texts.  A cut may fall inside a character, and the piece
of the field is then not UTF-8; what a reader of texts does with it is not asked here.
-/

set_option autoImplicit false

namespace TelemetryLog
namespace Csv

/-- What is left of a row that was cut: some of its first fields, and a piece of the next one. -/
def IsCut (row fs : List (List UInt8)) : Prop :=
  ∃ kept f rest piece, fs = kept ++ f :: rest ∧ row = kept ++ [piece] ∧ piece <+: f

theorem IsCut.of_prefix {f piece : List UInt8} (h : piece <+: f) (rest : List (List UInt8)) :
    IsCut [piece] (f :: rest) := ⟨[], f, rest, piece, rfl, rfl, h⟩

theorem IsCut.cons {row fs : List (List UInt8)} (f : List UInt8) (h : IsCut row fs) :
    IsCut (f :: row) (f :: fs) := by
  obtain ⟨kept, f', rest, piece, rfl, rfl, hpiece⟩ := h
  exact ⟨f :: kept, f', rest, piece, rfl, rfl, hpiece⟩

/-- The beginning of two texts in a row is one of the first text, or all of it and one of the
second. -/
theorem prefix_append_cases {p as bs : List UInt8} (h : p <+: as ++ bs) :
    p <+: as ∨ ∃ q, p = as ++ q ∧ q <+: bs := by
  rcases List.prefix_or_prefix_of_prefix h (List.prefix_append as bs) with hp | ⟨q, rfl⟩
  · exact .inl hp
  · exact .inr ⟨q, rfl, (List.prefix_append_right_inj as).1 h⟩

namespace Reader

variable {s t : State} {f p : List UInt8} {fs : List (List UInt8)}

/-! ## One field -/

/-- The machine has read a piece of a field, and may have stopped anywhere in it. -/
structure InField (s : State) (f : List UInt8) (t : State) : Prop where
  /-- What is there of the field is a piece of it. -/
  field : t.field.reverse <+: f
  /-- The fields before it stay. -/
  fields : t.fields = s.fields
  /-- The rows before it stay. -/
  rows : t.rows = s.rows
  /-- The machine is in a row, or still where it was. -/
  mode : t.mode ≠ .rowStart ∨ t.mode = s.mode

theorem inField_self (hs : s.beforeField) (f : List UInt8) : InField s f s :=
  ⟨by rw [hs.2]; exact List.nil_prefix, rfl, rfl, .inr rfl⟩

/-- Inside quotes a cut leaves a piece of what stands there, also between the two quotes that
stand for one. -/
theorem run_prefix_doubled (acc : List UInt8) (fields : List (List UInt8))
    (rows : List (List (List UInt8))) (hp : p <+: doubled f ++ [mark]) :
    ∃ mode piece, mode ≠ .rowStart ∧ piece <+: f ∧
      run ⟨.quoted, acc, fields, rows⟩ p = ⟨mode, piece.reverse ++ acc, fields, rows⟩ := by
  induction f generalizing acc p with
  | nil =>
    rcases List.prefix_cons_iff.1 hp with rfl | ⟨q, rfl, hq⟩
    · exact ⟨.quoted, [], by decide, List.prefix_rfl, rfl⟩
    · obtain rfl := List.prefix_nil.1 hq
      exact ⟨.closing, [], by decide, List.prefix_rfl, rfl⟩
  | cons b f ih =>
    rw [doubled, List.flatMap_cons, ← doubled, List.append_assoc] at hp
    by_cases hb : b = mark
    · rw [if_pos hb, List.cons_append, List.cons_append, List.nil_append] at hp
      rcases List.prefix_cons_iff.1 hp with rfl | ⟨q, rfl, hq⟩
      · exact ⟨.quoted, [], by decide, List.nil_prefix, rfl⟩
      rcases List.prefix_cons_iff.1 hq with rfl | ⟨r, rfl, hr⟩
      · exact ⟨.closing, [], by decide, List.nil_prefix, rfl⟩
      obtain ⟨mode, piece, hmode, hpiece, hrun⟩ := ih (mark :: acc) hr
      refine ⟨mode, b :: piece, hmode, List.cons_prefix_cons.2 ⟨rfl, hpiece⟩, ?_⟩
      rw [run_cons, run_cons]
      simp only [step, if_pos]
      rw [hrun, hb, List.reverse_cons, List.append_assoc, List.singleton_append]
    · rw [if_neg hb, List.singleton_append] at hp
      rcases List.prefix_cons_iff.1 hp with rfl | ⟨q, rfl, hq⟩
      · exact ⟨.quoted, [], by decide, List.nil_prefix, rfl⟩
      obtain ⟨mode, piece, hmode, hpiece, hrun⟩ := ih (b :: acc) hq
      refine ⟨mode, b :: piece, hmode, List.cons_prefix_cons.2 ⟨rfl, hpiece⟩, ?_⟩
      rw [run_cons]
      simp only [step, if_neg hb]
      rw [hrun, List.reverse_cons, List.append_assoc, List.singleton_append]

theorem inField_of_prefix_quoted (hs : s.beforeField) (hp : p <+: mark :: (doubled f ++ [mark])) :
    InField s f (run s p) := by
  rcases List.prefix_cons_iff.1 hp with rfl | ⟨q, rfl, hq⟩
  · exact inField_self hs f
  obtain ⟨mode, field, fields, rows⟩ := s
  obtain ⟨hmode, rfl⟩ := hs
  have hopen : step ⟨mode, [], fields, rows⟩ mark = ⟨.quoted, [], fields, rows⟩ := by
    rcases hmode with hmode | hmode <;> cases hmode <;> rfl
  obtain ⟨mode', piece, hmode', hpiece, hrun⟩ := run_prefix_doubled [] fields rows hq
  rw [run_cons, hopen, hrun]
  exact ⟨by simpa using hpiece, rfl, rfl, .inl hmode'⟩

/-- A cut in a field leaves a piece of the field. -/
theorem inField_of_prefix_encodeField (hs : s.beforeField) (hp : p <+: encodeField f) :
    InField s f (run s p) := by
  rw [encodeField] at hp
  split at hp
  · exact inField_of_prefix_quoted hs hp
  · -- the piece of a field without quotes is itself such a field
    rename_i hplain
    have hplain : encodeField p = p := by
      rw [encodeField, if_neg]
      rw [List.any_eq_true] at hplain ⊢
      rintro ⟨b, hb, hspecial⟩
      exact hplain ⟨b, hp.subset hb, hspecial⟩
    have hread := afterField_encodeField hs p
    rw [hplain] at hread
    refine ⟨by rw [hread.field, List.reverse_reverse]; exact hp, hread.fields, hread.rows, ?_⟩
    rcases hread.mode with hmode | hmode | ⟨-, hmode⟩
    · exact .inl (by rw [hmode]; decide)
    · exact .inl (by rw [hmode]; decide)
    · exact .inr hmode

/-! ## One row -/

/-- When the file ends here, the rows before this one are there, and of this one nothing or what a
cut leaves of it. -/
def EndsCut (s : State) (fs : List (List UInt8)) (t : State) : Prop :=
  finish t = s.rows.reverse ∨
    ∃ row, IsCut row fs ∧ finish t = s.rows.reverse ++ [s.fields.reverse ++ row]

theorem endsCut_of_inField (ht : InField s f t) (fs : List (List UInt8)) :
    EndsCut s (f :: fs) t := by
  by_cases hmode : t.mode = .rowStart
  · refine .inl ?_
    rw [finish, hmode, ht.rows]
  · refine .inr ⟨[t.field.reverse], IsCut.of_prefix ht.field fs, ?_⟩
    have hrow : finish t = t.endRow.rows.reverse := by
      rw [finish]
      split
      · exact absurd ‹_› hmode
      · rfl
    rw [hrow, State.endRow, ht.fields, ht.rows]
    simp

/-- The LF after the CR that ends a row is an empty line. -/
theorem run_prefix_lf (rows : List (List (List UInt8))) (hp : p <+: [lf]) :
    run { rows := rows } p = { rows := rows } := by
  rcases List.prefix_cons_iff.1 hp with rfl | ⟨q, rfl, hq⟩
  · rfl
  · obtain rfl := List.prefix_nil.1 hq
    rfl

theorem endsCut_of_prefix_encodeFields (hs : s.beforeField) (f : List UInt8)
    (fs : List (List UInt8)) (hrow : s.mode = .rowStart → f :: fs ≠ [[]])
    (hp : p <+: encodeFields (f :: fs) ++ [cr, lf]) : EndsCut s (f :: fs) (run s p) := by
  induction fs generalizing s f p with
  | nil =>
    rw [encodeFields] at hp
    rcases prefix_append_cases hp with hp | ⟨q, rfl, hq⟩
    · exact endsCut_of_inField (inField_of_prefix_encodeField hs hp) _
    have hf := afterField_encodeField hs f
    rcases List.prefix_cons_iff.1 hq with rfl | ⟨r, rfl, hr⟩
    · rw [List.append_nil]
      exact endsCut_of_inField (inField_of_prefix_encodeField hs List.prefix_rfl) _
    rw [run_append, run_cons, step_cr hs hf fun hmode hnil => hrow hmode (by rw [hnil]),
      run_prefix_lf _ hr]
    exact .inr ⟨[f], IsCut.of_prefix List.prefix_rfl _, by simp [finish]⟩
  | cons g fs ih =>
    rw [encodeFields, List.append_assoc, List.cons_append] at hp
    -- the cut is in this field, in front of its comma, or behind that
    rcases prefix_append_cases hp with hp | ⟨q, rfl, hq⟩
    · exact endsCut_of_inField (inField_of_prefix_encodeField hs hp) _
    rcases List.prefix_cons_iff.1 hq with rfl | ⟨r, rfl, hr⟩
    · rw [List.append_nil]
      exact endsCut_of_inField (inField_of_prefix_encodeField hs List.prefix_rfl) _
    have hs' : State.beforeField
        { s with mode := .fieldStart, field := [], fields := f :: s.fields } := ⟨.inr rfl, rfl⟩
    rw [run_append, run_cons, step_comma hs (afterField_encodeField hs f)]
    rcases ih hs' g (by simp) hr with hnone | ⟨row, hcut, hlast⟩
    · exact .inl hnone
    · exact .inr ⟨f :: row, hcut.cons f, by rw [hlast]; simp⟩

/-- **A row that is cut leaves the rows before it as they are**, and at most one row of its own. -/
theorem endsCut_of_prefix_encodeRow (rows : List (List (List UInt8))) (hfs : fs ≠ [])
    (hp : p <+: encodeRow fs) : EndsCut { rows := rows } fs (run { rows := rows } p) := by
  rw [encodeRow] at hp
  split at hp
  · rename_i hbare
    obtain rfl : fs = [[]] := by
      rw [isBare, Bool.or_eq_true, beq_iff_eq, beq_iff_eq] at hbare
      exact hbare.resolve_left hfs
    have hs : State.beforeField { rows := rows } := ⟨.inl rfl, rfl⟩
    rcases prefix_append_cases hp with hp | ⟨q, rfl, hq⟩
    · exact endsCut_of_inField (inField_of_prefix_quoted hs hp) _
    rcases List.prefix_cons_iff.1 hq with rfl | ⟨r, rfl, hr⟩
    · exact endsCut_of_inField (inField_of_prefix_quoted hs List.prefix_rfl) _
    have hend : step (run { rows := rows } [mark, mark]) cr = { rows := [[]] :: rows } := rfl
    rw [run_append, run_cons, hend, run_prefix_lf _ hr]
    exact .inr ⟨[[]], IsCut.of_prefix List.prefix_rfl _, by simp [finish]⟩
  · rename_i hbare
    obtain ⟨f, fs, rfl⟩ := List.exists_cons_of_ne_nil hfs
    exact endsCut_of_prefix_encodeFields ⟨.inl rfl, rfl⟩ f fs
      (fun _ hnil => hbare (by rw [hnil]; rfl)) hp

end Reader
end Csv
end TelemetryLog
