import Mathlib.Data.List.Forall2
import TelemetryLog.LogFile
import TelemetryLog.Proofs.Csv.Written
import TelemetryLog.Proofs.Json.Compact
import TelemetryLog.Proofs.Line.Objects

/-!
# What stands in the columns of a row

A record is written as a row of texts, and `Proofs.Csv.Written` says what bytes a row of texts is.
What is missing between the two is which texts they are, and that is said here, again as relations:
`Record.IsRow` for a record and `Payload.IsRow` for a payload and the columns that it is written in.

A column has the text of the member of its name, or an empty text if there is no such member or if
it is `null`.  A text stands as it is, and every other value as JSON without any space (`FieldOf`,
with `Json.CompactText`).  Columns are paired with texts by position, one for one, so a row has as
many texts as there are columns.

`Record.WrittenAs` puts this together with the bytes: the bytes are the rows of these records, one
for each and in their order.  The relation is what statements about files are made with.  That a log
satisfies it when a record is added follows from `rowText_rowOf`, and lists of records are built up
with `WrittenAs.concat`.

No writer occurs in these relations, neither that of rows nor that of values, and a payload is asked
for the members it has and not for what looking a key up finds.
-/

set_option autoImplicit false

namespace TelemetryLog

/-- Where each has just one partner, so does a whole list. -/
theorem forall₂_iff_eq_map {α β : Type} {R : α → β → Prop} {f : α → β}
    (h : ∀ a b, R a b ↔ b = f a) {as : List α} {bs : List β} :
    List.Forall₂ R as bs ↔ bs = as.map f := by
  have hR : R = fun a b => f a = b := by
    funext a b
    exact propext ((h a b).trans eq_comm)
  rw [hR, ← List.forall₂_map_left_iff, List.forall₂_eq_eq_eq, eq_comm]

/-! ## One column

Columns are found by name: `Payload.Has` is whether a payload has a member of the name, and
`FieldOf` what text its value has in a row. -/

/-- The text of a value, or of none, in a column. -/
inductive FieldOf : Option Json → String → Prop
  /-- There is no value. -/
  | absent : FieldOf none ""
  /-- The value is `null`. -/
  | null : FieldOf (some .null) ""
  /-- The value is a text. -/
  | text (s : String) : FieldOf (some (.text s)) s
  /-- The value is another one, which is written as JSON. -/
  | json {v : Json} {text : String} (hnull : v ≠ .null) (htext : ∀ s, v ≠ .text s)
    (h : Json.CompactText v text.toList) : FieldOf (some v) text

theorem compactText_toList_iff {v : Json} {text : String} :
    Json.CompactText v text.toList ↔ text = v.renderText := by
  rw [Json.compactText_iff, Json.renderText, ← String.toList_inj, String.toList_ofList]

theorem fieldOf_iff {v : Option Json} {text : String} : FieldOf v text ↔ text = fieldOf v := by
  constructor
  · rintro (_ | _ | s | ⟨hnull, htext, h⟩)
    · rfl
    · rfl
    · rfl
    · rename_i v
      rw [compactText_toList_iff.1 h]
      cases v with
      | null => exact absurd rfl hnull
      | text s => exact absurd rfl (htext s)
      | _ => rfl
  · rintro rfl
    cases v with
    | none => exact .absent
    | some v =>
      cases v with
      | null => exact .null
      | text s => exact .text s
      | _ => exact .json nofun nofun (compactText_toList_iff.2 rfl)

/-- A payload has this value under a key, or none. -/
inductive Payload.Has (p : Payload) (key : String) : Option Json → Prop
  /-- There is a member of the key. -/
  | member {v : Json} (h : (key, v) ∈ p.members) : p.Has key (some v)
  /-- There is no member of the key. -/
  | missing (h : ∀ v, (key, v) ∉ p.members) : p.Has key none

theorem Payload.has_get? (p : Payload) (key : String) : p.Has key (p.get? key) := by
  rw [get?, Json.find?]
  cases h : p.members.find? fun m => m.1 == key with
  | none =>
    refine .missing fun v hv => ?_
    exact absurd (beq_self_eq_true key) (List.find?_eq_none.1 h _ hv)
  | some m =>
    have hfound := List.find?_some h
    have hkey : m.1 = key := eq_of_beq hfound
    exact .member (hkey ▸ List.mem_of_find?_eq_some h)

namespace Line

variable {line key : String} {p : Payload} {schema : Schema} {row : List String}

theorem get?_eq_some_iff_mem (h : read line = .payload p) {v : Json} :
    p.get? key = some v ↔ (key, v) ∈ p.members := by
  obtain ⟨_, _, -, -, hkept⟩ := exists_members_of_read h
  exact Json.find?_eq_some_iff hkept.sorted

/-- The payload of a line has each key once. -/
theorem has_iff (h : read line = .payload p) {v : Option Json} :
    p.Has key v ↔ v = p.get? key := by
  constructor
  · rintro (hv | hnone)
    · exact ((get?_eq_some_iff_mem h).2 hv).symm
    · exact (Option.eq_none_iff_forall_ne_some.2 fun v hv =>
        hnone v ((get?_eq_some_iff_mem h).1 hv)).symm
  · rintro rfl
    exact p.has_get? key

end Line

/-! ## Rows -/

/-- The row of a record has a text for each of its values. -/
def Record.IsRow (r : Record) (row : List String) : Prop := List.Forall₂ FieldOf r.values row

/-- The row of a payload has for each column the text of what the payload has under its name. -/
def Payload.IsRow (p : Payload) (schema : Schema) (row : List String) : Prop :=
  List.Forall₂ (fun name text => ∃ v, p.Has name v ∧ FieldOf v text) schema.names row

theorem Record.isRow_iff {r : Record} {row : List String} : r.IsRow row ↔ row = r.fields :=
  forall₂_iff_eq_map @fieldOf_iff

theorem Payload.isRow_fields (p : Payload) (schema : Schema) :
    p.IsRow schema (Record.ofPayload p schema).fields := by
  rw [IsRow, Record.fields, Record.ofPayload, List.map_map, List.forall₂_map_right_iff,
    List.forall₂_same]
  exact fun name _ => ⟨_, p.has_get? name, fieldOf_iff.2 rfl⟩

/-- The payload of a line has just one row. -/
theorem Line.isRow_iff {line : String} {p : Payload} (h : read line = .payload p) {schema : Schema}
    {row : List String} : p.IsRow schema row ↔ row = (Record.ofPayload p schema).fields := by
  have hcolumn (name text : String) :
      (∃ v, p.Has name v ∧ FieldOf v text) ↔ text = fieldOf (p.get? name) := by
    simp only [has_iff h, exists_eq_left, fieldOf_iff]
  rw [Payload.IsRow, forall₂_iff_eq_map hcolumn, Record.fields, Record.ofPayload, List.map_map]
  rfl

namespace Record

/-- The bytes are the rows of the records, one for each and in their order. -/
def WrittenAs (records : List Record) (bs : List UInt8) : Prop :=
  ∃ rows, List.Forall₂ IsRow records rows ∧ Csv.RowsText rows bs

variable {records : List Record} {bs : List UInt8}

theorem writtenAs_iff : WrittenAs records bs ↔ bs = records.flatMap LogFile.rowOf := by
  simp only [WrittenAs, forall₂_iff_eq_map @isRow_iff, exists_eq_left, Csv.rowsText_iff,
    List.flatMap_map]
  rfl

theorem WrittenAs.concat {r : Record} {row : List String} {more : List UInt8}
    (h : WrittenAs records bs) (hrow : r.IsRow row) (hmore : Csv.RowText row more) :
    WrittenAs (records ++ [r]) (bs ++ more) := by
  rw [writtenAs_iff] at h ⊢
  rw [h, Csv.rowText_iff.1 hmore, isRow_iff.1 hrow, List.flatMap_append, List.flatMap_singleton]
  rfl

/-- What is added to a log for a record is its row. -/
theorem rowText_rowOf (r : Record) : Csv.RowText r.fields (LogFile.rowOf r) := Csv.rowText_iff.2 rfl

theorem rowsText_fields (records : List Record) :
    Csv.RowsText (records.map fields) (records.flatMap LogFile.rowOf) := by
  rw [Csv.rowsText_iff, List.flatMap_map]
  rfl

end Record
end TelemetryLog
