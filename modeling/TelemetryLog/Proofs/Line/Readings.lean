import TelemetryLog.Proofs.Json.Places
import TelemetryLog.Proofs.Line.WrittenBack
import TelemetryLog.Proofs.Log.Columns

/-!
# No reading is rounded

Wherever a number stands in the value of a column, however deep, it is written at the same place of
the field, digit for digit (`fields_of_standsAt`): only the letter of its exponent is made small,
and an exponent without a sign gets one.  The field can be read and written once more without any
change, unless there is an object in it that is set apart.

The place in the line is a path from the outermost object, whose first turn is the name of the
column, and the place in the field is the rest of the path.  In between the members of objects may
have been put in another order and keys may have been spelled in another way, so it is the path that
stays and not the distance from the front.

That nothing is rounded is said twice: the digits are the same, and the literals denote the same
rational number.  Neither follows from the other.  A literal with a zero added to it denotes what it
did, and one whose point has moved has the same digits.

A key that occurs again takes its earlier member out of the row, number and all, and a path through
it stands at nothing.  `field_not_read_again` shows this, and the exception for objects that are set
apart.
-/

set_option autoImplicit false

namespace TelemetryLog
namespace Line

open Json (Item Member ItemsText MembersText NumberText Number StandsAt WrittenAt Turn BodyText
  HasSetApart Denotes respell)

variable {line k x : String} {schema : Schema} {p : Payload} {lit body pre post : List Char}
  {n : Number} {v : Json} {path : List Turn} {i : Nat}

/-- A field is the text of the value of its column. -/
theorem fields_getElem? (hcolumn : schema.names[i]? = some k) :
    (Record.ofPayload p schema).fields[i]? = some (fieldOf (p.get? k)) := by
  simp [Record.fields, Record.ofPayload, hcolumn]

/-- A line in which a part stands is a record, and the part stands in the value of its first key. -/
theorem exists_read_of_standsAt (h : StandsAt lit 0 (.member k :: path) (Text.trim line.toList))
    (hlit : NumberText lit n) :
    ∃ p v pre post, read line = .payload p ∧ p.get? k = some v ∧
      WrittenAt (.number n) path v pre post := by
  generalize hline : Text.trim line.toList = cs at h
  cases h with
  | @member _ _ _ front back m h hlast hpart =>
    have hread : read line =
        .payload ⟨Json.collect ((front ++ m :: back).map Json.Member.entry)⟩ := by
      rw [read, hline, ofTrimmed_eq_payload_iff]
      exact h.objectText
    obtain ⟨pre, post, hwritten⟩ :=
      hpart.exists_writtenAt hlit Nat.one_pos (h.values m (by simp))
    refine ⟨_, m.item.value, pre, post, hread, (get?_eq_some_iff_mem hread).2 ?_, hwritten⟩
    refine ((Json.keeps_collect _).mem m.entry).2
      ⟨front.map Json.Member.entry, back.map Json.Member.entry, by simp, ?_⟩
    exact List.forall_mem_map.2 hlast

/-- A number is not inside a text or `null`. -/
theorem ne_of_writtenAt (h : WrittenAt (.number n) path v pre post) :
    v ≠ .null ∧ ∀ s, v ≠ .text s := by
  cases h <;> simp

/-- **No reading is rounded.**  Let a number literal stand at the end of a path in the value of a
column, of members with one key in the last.  The line is a record, and in the field of the column
the literal is written at the end of the same path, with nothing but the spelling of its exponent
changed; so it denotes the same rational number and has all its digits and its sign.  If no object
in the value is set apart, the line that is made of the field has the same field again; otherwise it
is malformed. -/
theorem fields_of_standsAt (hlit : NumberText lit n)
    (hstands : StandsAt lit 0 (.member k :: path) (Text.trim line.toList))
    (hcolumn : schema.names[i]? = some k) :
    ∃ p v pre post x, read line = .payload p ∧ p.get? k = some v ∧
      (Record.ofPayload p schema).fields[i]? = some x ∧
      (WrittenAt (.number n) path v pre post ∧ x.toList = pre ++ (respell lit ++ post)) ∧
      (∀ q, Denotes (respell lit) q ↔ Denotes lit q) ∧
      (respell lit).filter Char.isDigit = lit.filter Char.isDigit ∧
      ((respell lit).head? = some '-' ↔ lit.head? = some '-') ∧
      ∀ body, BodyText body k.toList →
        (¬HasSetApart v → ∃ q, read (single body x) = .payload q ∧
          (Record.ofPayload q schema).fields[i]? = some x) ∧
        (HasSetApart v → read (single body x) = .malformed) := by
  obtain ⟨p, v, pre, post, hread, hget, hwritten⟩ := exists_read_of_standsAt hstands hlit
  obtain ⟨hnull, htext⟩ := ne_of_writtenAt hwritten
  have hfield : fieldOf (p.get? k) = v.renderText := by
    rw [hget, fieldOf_some hnull htext]
  refine ⟨p, v, pre, post, v.renderText, hread, hget, ?_, ⟨hwritten, ?_⟩,
    fun q => Json.denotes_respell_iff hlit, Json.filter_respell lit, Json.head?_respell lit, ?_⟩
  · rw [fields_getElem? hcolumn, hfield]
  · rw [Json.renderText, String.toList_ofList, hwritten.render_eq, Json.render,
      Json.text_eq_respell hlit]
  · intro body hbody
    have hv := shaped_of_read hread _ ((get?_eq_some_iff_mem hread).1 hget)
    refine ⟨fun hnone => ⟨_, read_single hbody hv hnone, ?_⟩, read_single_of_hasSetApart hbody hv⟩
    rw [fields_getElem? hcolumn, Payload.get?, Json.find?]
    simp [fieldOf_some hnull htext]

/-- A long zero with a sign and an exponent, in an object that is inside an array, where the members
change places. -/
theorem fields_of_standsAt_of_zero :
    NumberText "-0.050E07".toList ⟨true, ['0'], ['0', '5', '0'], some ⟨false, ['0', '7']⟩⟩ ∧
      StandsAt "-0.050E07".toList 0 [.member "dust", .item 1, .member "a"]
        (Text.trim "\x7b\"dust\":[true,\x7b\"b\":1,\"\\u0061\":-0.050E07\x7d]\x7d ".toList) ∧
      (⟨["pf", "dust"]⟩ : Schema).names[1]? = some "dust" ∧
      ∃ p v pre post x,
        read "\x7b\"dust\":[true,\x7b\"b\":1,\"\\u0061\":-0.050E07\x7d]\x7d " = .payload p ∧
          p.get? "dust" = some v ∧
          (Record.ofPayload p ⟨["pf", "dust"]⟩).fields[1]? = some x ∧
          x.toList = pre ++ ("-0.050e+07".toList ++ post) ∧
          (∀ q, Denotes "-0.050e+07".toList q ↔ Denotes "-0.050E07".toList q) ∧
          (¬HasSetApart v → ∃ q, read (single (Json.escape "dust".toList) x) = .payload q ∧
            (Record.ofPayload q ⟨["pf", "dust"]⟩).fields[1]? = some x) := by
  let b : Member := ⟨[], ['b'], [], "b", ⟨[], ['1'], [], .number ⟨false, ['1'], [], none⟩⟩⟩
  let a : Member := ⟨[], "\\u0061".toList, [], "a", ⟨[], "-0.050E07".toList, [],
    .number ⟨true, ['0'], ['0', '5', '0'], some ⟨false, ['0', '7']⟩⟩⟩⟩
  let yes : Item := ⟨[], ['t', 'r', 'u', 'e'], [], .bool true⟩
  let dust : Member := ⟨[], "dust".toList, [], "dust", .array [yes, .object [b, a]]⟩
  have hlit : NumberText "-0.050E07".toList
    ⟨true, ['0'], ['0', '5', '0'], some ⟨false, ['0', '7']⟩⟩ := by decide +kernel
  have hinner : MembersText 3 [b, a] ([','].intercalate ([b, a].map Member.chars)) := by
    refine ⟨by decide +kernel, ?_, Json.separated_intercalate _⟩
    simp only [List.forall_mem_cons]
    exact ⟨.scalar (.number (by decide)), .scalar (.number hlit), by simp⟩
  have hitems : ItemsText 2 [yes, .object [b, a]]
      ([','].intercalate ([yes, .object [b, a]].map Item.chars)) := by
    refine ⟨by decide +kernel, ?_, Json.separated_intercalate _⟩
    simp only [List.forall_mem_cons]
    exact ⟨.scalar .yes, hinner.valueText (by decide) (.object (by decide) (Json.keeps_collect _)),
      by simp⟩
  have houter : MembersText 1 [dust] ([','].intercalate ([dust].map Member.chars)) := by
    refine ⟨by decide +kernel, ?_, Json.separated_intercalate _⟩
    exact List.forall_mem_singleton.2 (hitems.valueText (by decide))
  have hstands : StandsAt "-0.050E07".toList 0 [.member "dust", .item 1, .member "a"]
      (Text.trim "\x7b\"dust\":[true,\x7b\"b\":1,\"\\u0061\":-0.050E07\x7d]\x7d ".toList) := by
    have hline : Text.trim
        "\x7b\"dust\":[true,\x7b\"b\":1,\"\\u0061\":-0.050E07\x7d]\x7d ".toList =
          '\x7b' :: ([','].intercalate ([dust].map Member.chars) ++ ['\x7d']) := by decide +kernel
    rw [hline]
    exact @StandsAt.member _ _ _ _ [] [] dust houter (by simp)
      (@StandsAt.item _ _ _ _ [yes] [] (.object [b, a]) hitems
        (@StandsAt.member _ _ _ _ [b] [] a hinner (by simp) .here))
  have hcolumn : (⟨["pf", "dust"]⟩ : Schema).names[1]? = some "dust" := rfl
  obtain ⟨p, v, pre, post, x, hread, hget, hfield, ⟨-, hx⟩, hdenotes, -, -, hagain⟩ :=
    fields_of_standsAt hlit hstands hcolumn
  exact ⟨hlit, hstands, hcolumn, p, v, pre, post, x, hread, hget, hfield, hx, hdenotes,
    (hagain _ (Json.bodyText_escape _)).1⟩

/-- Not every field can be read again, since in the order of keys the one that is set apart may come
to stand in front; and a number does not stay where its key occurs again. -/
theorem field_not_read_again :
    (NumberText "1.5".toList ⟨false, ['1'], ['5'], none⟩ ∧
      StandsAt "1.5".toList 0 [.member "dust", .member "z"]
        (Text.trim
          "\x7b\"dust\":\x7b\"z\":1.5,\"$serde_json::private::Number\":2\x7d\x7d".toList) ∧
      ∃ p,
        read "\x7b\"dust\":\x7b\"z\":1.5,\"$serde_json::private::Number\":2\x7d\x7d" =
          .payload p ∧
        (Record.ofPayload p ⟨["dust"]⟩).fields =
          ["\x7b\"$serde_json::private::Number\":2,\"z\":1.5\x7d"] ∧
        read (single "dust".toList "\x7b\"$serde_json::private::Number\":2,\"z\":1.5\x7d") =
          .malformed) ∧
    ∃ p, read "\x7b\"dust\":1.5,\"dust\":2\x7d" = .payload p ∧
      (Record.ofPayload p ⟨["dust"]⟩).fields = ["2"] := by
  let z : Member :=
    ⟨[], ['z'], [], "z", ⟨[], "1.5".toList, [], .number ⟨false, ['1'], ['5'], none⟩⟩⟩
  let apart : Member := ⟨[], "$serde_json::private::Number".toList, [],
    "$serde_json::private::Number", ⟨[], ['2'], [], .number ⟨false, ['2'], [], none⟩⟩⟩
  let dust : Member := ⟨[], "dust".toList, [], "dust", .object [z, apart]⟩
  have hlit : NumberText "1.5".toList ⟨false, ['1'], ['5'], none⟩ := by decide +kernel
  have hinner : MembersText 2 [z, apart] ([','].intercalate ([z, apart].map Member.chars)) := by
    refine ⟨by decide +kernel, ?_, Json.separated_intercalate _⟩
    simp only [List.forall_mem_cons]
    exact ⟨.scalar (.number hlit), .scalar (.number (by decide)), by simp⟩
  have houter : MembersText 1 [dust] ([','].intercalate ([dust].map Member.chars)) := by
    refine ⟨by decide +kernel, ?_, Json.separated_intercalate _⟩
    exact List.forall_mem_singleton.2
      (hinner.valueText (by decide) (.object (by decide) (Json.keeps_collect _)))
  have hline : Text.trim
      "\x7b\"dust\":\x7b\"z\":1.5,\"$serde_json::private::Number\":2\x7d\x7d".toList =
        '\x7b' :: ([','].intercalate ([dust].map Member.chars) ++ ['\x7d']) := by decide +kernel
  have hstands : StandsAt "1.5".toList 0 [.member "dust", .member "z"] (Text.trim
      "\x7b\"dust\":\x7b\"z\":1.5,\"$serde_json::private::Number\":2\x7d\x7d".toList) := by
    rw [hline]
    exact @StandsAt.member _ _ _ _ [] [] dust houter (by simp)
      (@StandsAt.member _ _ _ _ [] [apart] z hinner (by decide) .here)
  have hread : read "\x7b\"dust\":\x7b\"z\":1.5,\"$serde_json::private::Number\":2\x7d\x7d" =
      .payload ⟨[("dust", .object [apart.entry, z.entry])]⟩ := by
    with_unfolding_all rfl
  have hagain : read
      (single "dust".toList "\x7b\"$serde_json::private::Number\":2,\"z\":1.5\x7d") =
        .malformed := by
    with_unfolding_all rfl
  have hread' : read "\x7b\"dust\":1.5,\"dust\":2\x7d" =
      .payload ⟨[("dust", .number ⟨false, ['2'], [], none⟩)]⟩ := by
    with_unfolding_all rfl
  exact ⟨⟨hlit, hstands, _, hread, by decide +kernel, hagain⟩, _, hread', by decide +kernel⟩

end Line
end TelemetryLog
