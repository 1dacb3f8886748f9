import TelemetryLog.Record
import TelemetryLog.Proofs.Json.Rendering
import TelemetryLog.Proofs.Line.Objects

/-!
# Lines made of what was written

A value in the file that is not a plain text stands there as JSON.  With its key put in front again
(`single`) this is a line, and the line is read as the one value that was written
(`read_written_back`).  The one exception is a value with an object that is set apart: then the line
is malformed.

The key may be spelled in any way that means it, since a column's name is only characters and
somebody has to choose how to put them between quotes.  The value is taken as it stands.

Plain texts and `null` are left out.  A text is written without its quotes, so whether it was the
text `1` or the number does not show in the file; and nothing at all is written for `null`.

What is known of the value comes from the line it was sent in (`shaped_of_read`), and what happens
to the line that is made of it comes from `Proofs.Json.Rendering`.  The two are put together here,
with the braces of an object that has just one member.
-/

set_option autoImplicit false

namespace TelemetryLog
namespace Line

open Json (BodyText MembersText Member Item Shaped HasSetApart)

variable {line k x : String} {p : Payload} {v : Json} {body : List Char}

/-- The object with one member, whose key is spelled like this and whose value is this text. -/
def single (body : List Char) (x : String) : String :=
  "\x7b\"" ++ String.ofList body ++ "\":" ++ x ++ "\x7d"

/-- The member of that object. -/
def onlyMember (body : List Char) (k : String) (v : Json) : Member :=
  ⟨[], body, [], k, Item.ofValue v⟩

theorem single_toList (body : List Char) (k : String) (v : Json) :
    (single body v.renderText).toList = '\x7b' :: ((onlyMember body k v).chars ++ ['\x7d']) := by
  simp [single, Json.renderText, Member.chars, onlyMember, Item.chars, Item.ofValue]

theorem isSpelled_onlyMember (h : BodyText body k.toList) (v : Json) :
    (onlyMember body k v).isSpelled :=
  ⟨Json.isSpace_nil, h, Json.isSpace_nil, Item.isSpaced_ofValue v⟩

theorem isBraced_single (body : List Char) (v : Json) :
    isBraced (single body v.renderText).toList = true := by
  rw [single_toList body "" v, isBraced_iff, ← List.cons_append, List.getLast?_concat]
  exact ⟨rfl, rfl⟩

/-! ## Reading -/

theorem read_single (hbody : BodyText body k.toList) (hv : Shaped 1 v) (hnone : ¬HasSetApart v) :
    read (single body v.renderText) = .payload ⟨[(k, v)]⟩ := by
  have hmembers : MembersText 1 [onlyMember body k v] (onlyMember body k v).chars :=
    ⟨List.forall_mem_singleton.2 (isSpelled_onlyMember hbody v),
      List.forall_mem_singleton.2 (Json.valueText_render hv hnone), .some [] _⟩
  rw [read, trim_of_isBraced (isBraced_single body v), ofTrimmed_eq_payload_iff,
    single_toList body k v]
  exact hmembers.objectText

theorem read_single_of_hasSetApart (hbody : BodyText body k.toList) (hv : Shaped 1 v)
    (hset : HasSetApart v) : read (single body v.renderText) = .malformed := by
  have hmember : Json.Reader.run (.key true [] []) (onlyMember body k v).chars = none :=
    Json.Reader.run_member_eq_none (isSpelled_onlyMember hbody v)
      (Json.Reader.refuses_render hv Nat.one_pos hset)
  rw [read, trim_of_isBraced (isBraced_single body v)]
  refine ofTrimmed_eq_malformed (isBraced_single body v) fun members hdone => ?_
  rw [single_toList body k v, Json.Reader.run_cons_of_move .start,
    Json.Reader.run_append_eq_none hmember] at hdone
  cases hdone

/-! ## What is in a payload -/

/-- The values of a payload are such that they can be written. -/
theorem shaped_of_read (h : read line = .payload p) : ∀ m ∈ p.members, Shaped 1 m.2 := by
  intro m hm
  obtain ⟨members, cs, -, hmembers, hkept⟩ := exists_members_of_read h
  obtain ⟨sent, hsent, rfl⟩ := List.mem_map.1 (hkept.mem_sent hm)
  exact Json.shaped_of_valueText (hmembers.values sent hsent)

/-- A value that is neither a text nor `null` is written as JSON. -/
theorem fieldOf_some (hnull : v ≠ .null) (htext : ∀ s, v ≠ .text s) :
    fieldOf (some v) = v.renderText := by
  cases v with
  | null => exact absurd rfl hnull
  | text s => exact absurd rfl (htext s)
  | _ => rfl

/-- **What was written can be read back.**  Let `x` be the text that is written for a value of a
record which is neither a text nor `null`.  The line with the same key, however it is spelled, and
`x` carries this one value, and `x` is written for it again.  If there is an object in the value
whose smallest key is the one that is set apart for numbers, the line is malformed. -/
theorem read_written_back (hread : read line = .payload p) (hmem : (k, v) ∈ p.members)
    (hnull : v ≠ .null) (htext : ∀ s, v ≠ .text s) (hx : fieldOf (some v) = x)
    (hbody : BodyText body k.toList) :
    (¬HasSetApart v →
        ∃ q, read (single body x) = .payload q ∧ q.members = [(k, v)] ∧ fieldOf (q.get? k) = x) ∧
      (HasSetApart v → read (single body x) = .malformed) := by
  have hv := shaped_of_read hread _ hmem
  rw [fieldOf_some hnull htext] at hx
  subst hx
  refine ⟨fun hnone => ⟨_, read_single hbody hv hnone, rfl, ?_⟩,
    read_single_of_hasSetApart hbody hv⟩
  have hget : Payload.get? ⟨[(k, v)]⟩ k = some v := by
    simp [Payload.get?, Json.find?]
  rw [hget, fieldOf_some hnull htext]

set_option maxRecDepth 4000 in
/-- Two members of one line, in whose values the members change places.  In the first value the key
that is set apart comes to stand in front, in the second a smaller key does. -/
theorem read_written_back_of_two :
    ∃ p v w,
      read ("\x7b\"\\u0061\":\x7b\"z\":-0.0,\"$serde_json::private::Number\":1E5\x7d,\"b\":" ++
          "[7E05,\x7b\"$serde_json::private::\":1,\"$\":\"\\u000B\"\x7d]\x7d") = .payload p ∧
        (("a", v) ∈ p.members ∧ v ≠ .null ∧ (∀ s, v ≠ .text s) ∧ HasSetApart v) ∧
        (("b", w) ∈ p.members ∧ w ≠ .null ∧ (∀ s, w ≠ .text s) ∧ ¬HasSetApart w) ∧
        fieldOf (some v) = "\x7b\"$serde_json::private::Number\":1e+5,\"z\":-0.0\x7d" ∧
        read (single (Json.escape "a".toList) (fieldOf (some v))) = .malformed ∧
        fieldOf (some w) =
          "[7e+05,\x7b\"$\":\"\\u000b\",\"$serde_json::private::\":1\x7d]" ∧
        ∃ q, read (single (Json.escape "b".toList) (fieldOf (some w))) = .payload q ∧
          q.members = [("b", w)] ∧ fieldOf (q.get? "b") = fieldOf (some w) := by
  let v : Json := .object [("$serde_json::private::Number",
    .number ⟨false, ['1'], [], some ⟨false, ['5']⟩⟩), ("z", .number ⟨true, ['0'], ['0'], none⟩)]
  let inner : List (String × Json) :=
    [("$", .text "\x0b"), ("$serde_json::private::", .number ⟨false, ['1'], [], none⟩)]
  let w : Json := .array [.number ⟨false, ['7'], [], some ⟨false, ['0', '5']⟩⟩, .object inner]
  have hset : HasSetApart v := ⟨_, .here, ⟨_, .head _, rfl⟩, by decide⟩
  have hleast : ¬Json.SetApart inner := fun h => absurd (h.least _ (.head _)) (by decide)
  have hnone : ¬HasSetApart w := by
    simpa [w, inner, Json.hasSetApart_array_iff, Json.hasSetApart_object_iff,
      Json.not_hasSetApart_of_leaf] using hleast
  have hread : read
      ("\x7b\"\\u0061\":\x7b\"z\":-0.0,\"$serde_json::private::Number\":1E5\x7d,\"b\":" ++
        "[7E05,\x7b\"$serde_json::private::\":1,\"$\":\"\\u000B\"\x7d]\x7d") =
      .payload ⟨[("a", v), ("b", w)]⟩ := by
    with_unfolding_all rfl
  have hv := read_written_back hread (.head _) (by simp [v]) (by simp [v]) rfl
    (Json.bodyText_escape "a".toList)
  have hw := read_written_back hread (.tail _ (.head _)) (by simp [w]) (by simp [w]) rfl
    (Json.bodyText_escape "b".toList)
  exact ⟨_, v, w, hread, ⟨.head _, by simp [v], by simp [v], hset⟩,
    ⟨.tail _ (.head _), by simp [w], by simp [w], hnone⟩, by decide +kernel, hv.2 hset,
    by decide +kernel, hw.1 hnone⟩

end Line
end TelemetryLog
