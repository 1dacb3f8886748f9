import TelemetryLog.LogFile
import TelemetryLog.Proofs.Json.Likeness
import TelemetryLog.Proofs.Line.Objects

/-!
# What of a line reaches the log

Two lines say the same to a log (`AlikeFor`) if the members that its columns name are alike, at any
depth and in any order, whatever blanks stand around the objects, and whatever other members there
are.  Then the two have the same row, and the same bytes are written for them
(`append_eq_of_alikeFor`).

`AlikeFor` speaks of the members of a line as they stand in it, and names no value and no row.  That
a line is an object of these members with blanks around it is `Carries`; every record is one in some
way (`exists_carries`), and like itself (`alikeFor_self`), so no line that counts is left out of the
statement.

Members that no column names drop out before it is asked which member of a key is the last one.
This is right because repeating concerns one key at a time (`Json.mem_lasting_filter`).

The conclusion is about a log and a disk in any state: what the log is afterwards and what the disk
is are the same for both lines.
-/

set_option autoImplicit false

namespace TelemetryLog
namespace Line

open Json (Item Member ItemsText MembersText ValueText Alike lasting collect)

variable {line line' : String} {members members' : List Member} {schema : Schema}

/-- The line is an object of these members, in this order, with only blanks around it. -/
inductive Carries (line : String) (members : List Member) : Prop
  /-- The blanks before and after the object, and what stands between its braces. -/
  | mk {before cs after : List Char} (hbefore : ∀ c ∈ before, Text.isBlank c = true)
      (hafter : ∀ c ∈ after, Text.isBlank c = true) (hmembers : MembersText 1 members cs)
      (hline : line.toList = before ++ ('\x7b' :: (cs ++ ['\x7d']) ++ after))

/-- For a log with these columns the two lines do not differ in anything that counts: the members
with the name of a column whose key does not occur again are the same, in any order, with any
spelling of the keys and any space, and with values that are alike. -/
inductive AlikeFor (schema : Schema) (line line' : String) : Prop
  /-- The members of both lines, and those that count in pairs. -/
  | mk {members members' : List Member} {pairs : List (Member × Member)}
      (h : Carries line members) (h' : Carries line' members')
      (hpairs : (pairs.map Prod.fst).Perm (lasting (members.filter (·.key ∈ schema.names))))
      (hpairs' : (pairs.map Prod.snd).Perm (lasting (members'.filter (·.key ∈ schema.names))))
      (hkeys : ∀ p ∈ pairs, p.1.key = p.2.key)
      (halike : ∀ p ∈ pairs, Alike 1 p.1.item.text p.2.item.text)

theorem Carries.read_eq (h : Carries line members) :
    read line = .payload ⟨collect (members.map Member.entry)⟩ := by
  obtain ⟨hbefore, hafter, hmembers, hline⟩ := h
  have hobject := hmembers.objectText
  obtain ⟨hhead, hlast⟩ := isBraced_iff.1 (isBraced_of_objectText hobject)
  rw [read, hline, Text.trim_around hbefore hafter hhead (by decide) hlast (by decide),
    ofTrimmed_eq_payload_iff]
  exact hobject

/-- Every record is such a line. -/
theorem exists_carries {p : Payload} (h : read line = .payload p) :
    ∃ members, Carries line members := by
  obtain ⟨members, cs, htrim, hmembers, -⟩ := exists_members_of_read h
  obtain ⟨before, after, hbefore, hafter, hline⟩ := Text.exists_eq_trim line.toList
  rw [htrim] at hline
  exact ⟨members, .mk hbefore hafter hmembers hline⟩

theorem Carries.value (h : Carries line members) {m : Member} (hm : m ∈ members) :
    Json.ValueText 1 m.item.text m.item.value := by
  obtain ⟨-, -, hmembers, -⟩ := h
  exact hmembers.values m hm

/-- No record is left out: each is like itself. -/
theorem alikeFor_self {p : Payload} (h : read line = .payload p) (schema : Schema) :
    AlikeFor schema line line := by
  obtain ⟨members, hline⟩ := exists_carries h
  let counting := lasting (members.filter (·.key ∈ schema.names))
  refine @AlikeFor.mk _ _ _ members members (counting.map fun m => (m, m)) hline hline ?_ ?_ ?_ ?_
  · rw [List.map_map]
    exact .of_eq (List.map_id _)
  · rw [List.map_map]
    exact .of_eq (List.map_id _)
  · exact List.forall_mem_map.2 fun m _ => rfl
  · exact List.forall_mem_map.2 fun m _ => .same

/-- Only the members with the name of the column count. -/
theorem get?_eq_some_iff {k : String} (hk : k ∈ schema.names) {v : Json} :
    Payload.get? ⟨collect (members.map Member.entry)⟩ k = some v ↔
      ∃ m ∈ lasting (members.filter (·.key ∈ schema.names)), m.entry = (k, v) := by
  rw [Payload.get?, Json.find?_eq_some_iff (Json.keeps_collect _).sorted, Json.mem_collect_iff]
  refine exists_congr fun m => ?_
  rw [Json.mem_lasting_filter (p := fun key => decide (key ∈ schema.names)), decide_eq_true_eq,
    and_assoc, and_congr_right_iff]
  intro _
  refine (and_iff_right_of_imp ?_).symm
  intro hentry
  rw [show m.key = k from congrArg Prod.fst hentry]
  exact hk

/-- **Only the meaning of the columns reaches the log.**  If two lines differ in nothing that counts
for the columns, both are records, their rows are the same, and so is what becomes of any log and
any disk when the row is added. -/
theorem append_eq_of_alikeFor (h : AlikeFor schema line line') :
    ∃ p p', read line = .payload p ∧ read line' = .payload p' ∧
      LogFile.rowOf (.ofPayload p schema) = LogFile.rowOf (.ofPayload p' schema) ∧
      ∀ (f : LogFile) (d : Disk),
        f.append d (.ofPayload p schema) = f.append d (.ofPayload p' schema) := by
  obtain @⟨members, members', pairs, h, h', hpairs, hpairs', hkeys, halike⟩ := h
  have hentry : ∀ p ∈ pairs, p.1.entry = p.2.entry := by
    intro p hp
    have hmem := Json.mem_of_mem_lasting (hpairs.mem_iff.1 (List.mem_map_of_mem hp))
    have hmem' := Json.mem_of_mem_lasting (hpairs'.mem_iff.1 (List.mem_map_of_mem hp))
    exact Prod.ext (hkeys p hp) ((halike p hp).value_eq Nat.one_pos
      (h.value (List.mem_filter.1 hmem).1) (h'.value (List.mem_filter.1 hmem').1))
  have hrecord : Record.ofPayload ⟨collect (members.map Member.entry)⟩ schema =
      Record.ofPayload ⟨collect (members'.map Member.entry)⟩ schema := by
    have hvalues : schema.names.map (Payload.get? ⟨collect (members.map Member.entry)⟩) =
        schema.names.map (Payload.get? ⟨collect (members'.map Member.entry)⟩) := by
      refine List.map_congr_left fun k hk => Option.ext fun v => ?_
      rw [get?_eq_some_iff hk, get?_eq_some_iff hk]
      exact Json.exists_lasting_iff hpairs hpairs' hentry (k, v)
    simp only [Record.ofPayload, hvalues]
  refine ⟨_, _, h.read_eq, h'.read_eq, ?_, fun f d => ?_⟩
  · rw [hrecord]
  · rw [hrecord]

/-- All the differences at once, the inner ones at depth two: a key that occurs again at the top and
inside, members in another order, space, escapes, a member that no column names, and blanks. -/
theorem append_eq_of_alikeFor_of_columns :
    AlikeFor ⟨["a", "b"]⟩
        "\u3000\x7b\"a\":0,\"a\":\x7b\"y\":1,\"y\":[2,\"\\u0078\"],\"x\":0\x7d,\"c\":3\x7d"
        "\x7b\"\\u0061\" :\x7b\"x\":0,\"y\":[2, \"x\"]\x7d\x7d\n" ∧
      ∃ p p',
        read "\u3000\x7b\"a\":0,\"a\":\x7b\"y\":1,\"y\":[2,\"\\u0078\"],\"x\":0\x7d,\"c\":3\x7d" =
            .payload p ∧
          read "\x7b\"\\u0061\" :\x7b\"x\":0,\"y\":[2, \"x\"]\x7d\x7d\n" = .payload p' ∧
          LogFile.rowOf (.ofPayload p ⟨["a", "b"]⟩) = LogFile.rowOf (.ofPayload p' ⟨["a", "b"]⟩) ∧
          ∀ (f : LogFile) (d : Disk),
            f.append d (.ofPayload p ⟨["a", "b"]⟩) = f.append d (.ofPayload p' ⟨["a", "b"]⟩) := by
  -- items and members by their parts
  let digit (c : Char) : Item := ⟨[], [c], [], .number ⟨false, [c], [], none⟩⟩
  let x (before body : List Char) : Item := ⟨before, '"' :: (body ++ ['"']), [], .text "x"⟩
  let member (c : Char) (i : Item) : Member := ⟨[], [c], [], String.singleton c, i⟩
  have hdigit (depth : Nat) {c : Char} (h : Json.NumberText [c] ⟨false, [c], [], none⟩) :
      ValueText depth (digit c).text (digit c).value := .scalar (.number h)
  have hx (depth : Nat) {before body : List Char} (h : Json.BodyText body ['x']) :
      ValueText depth (x before body).text (x before body).value := .text h
  -- the two lines from the inside out, the second one with a prime
  let items := [digit '2', x [] ['\\', 'u', '0', '0', '7', '8']]
  let items' := [digit '2', x [' '] ['x']]
  have hitems : ItemsText 3 items ([','].intercalate (items.map Item.chars)) := by
    refine ⟨by decide +kernel, ?_, Json.separated_intercalate _⟩
    simp only [items, List.forall_mem_cons]
    exact ⟨hdigit 3 (by decide), hx 3 (by decide +kernel), by simp⟩
  have hitems' : ItemsText 3 items' ([','].intercalate (items'.map Item.chars)) := by
    refine ⟨by decide +kernel, ?_, Json.separated_intercalate _⟩
    simp only [items', List.forall_mem_cons]
    exact ⟨hdigit 3 (by decide), hx 3 (by decide +kernel), by simp⟩
  let inner := [member 'y' (digit '1'), member 'y' (.array items), member 'x' (digit '0')]
  let inner' := [member 'x' (digit '0'), member 'y' (.array items')]
  have hinner : MembersText 2 inner ([','].intercalate (inner.map Member.chars)) := by
    refine ⟨by decide +kernel, ?_, Json.separated_intercalate _⟩
    simp only [inner, List.forall_mem_cons]
    exact ⟨hdigit 2 (by decide), hitems.valueText (by decide), hdigit 2 (by decide), by simp⟩
  have hinner' : MembersText 2 inner' ([','].intercalate (inner'.map Member.chars)) := by
    refine ⟨by decide +kernel, ?_, Json.separated_intercalate _⟩
    simp only [inner', List.forall_mem_cons]
    exact ⟨hdigit 2 (by decide), hitems'.valueText (by decide), by simp⟩
  let outer := [member 'a' (digit '0'), member 'a' (.object inner), member 'c' (digit '3')]
  let a' : Member := ⟨[], "\\u0061".toList, [' '], "a", .object inner'⟩
  let outer' := [a']
  have houter : MembersText 1 outer ([','].intercalate (outer.map Member.chars)) := by
    refine ⟨by decide +kernel, ?_, Json.separated_intercalate _⟩
    have hobject := hinner.valueText (by decide) (.object (by decide) (Json.keeps_collect _))
    simp only [outer, List.forall_mem_cons]
    exact ⟨hdigit 1 (by decide), hobject, hdigit 1 (by decide), by simp⟩
  have houter' : MembersText 1 outer' ([','].intercalate (outer'.map Member.chars)) := by
    refine ⟨by decide +kernel, ?_, Json.separated_intercalate _⟩
    have hobject := hinner'.valueText (by decide) (.object (by decide) (Json.keeps_collect _))
    simp only [outer', List.forall_mem_cons]
    exact ⟨hobject, by simp⟩
  have hline : Carries
      "\u3000\x7b\"a\":0,\"a\":\x7b\"y\":1,\"y\":[2,\"\\u0078\"],\"x\":0\x7d,\"c\":3\x7d" outer :=
    @Carries.mk _ _ ['\u3000'] _ [] (List.forall_mem_singleton.2 (by decide)) nofun houter
      (by decide +kernel)
  have hline' : Carries "\x7b\"\\u0061\" :\x7b\"x\":0,\"y\":[2, \"x\"]\x7d\x7d\n" outer' :=
    @Carries.mk _ _ [] _ ['\n'] nofun (List.forall_mem_singleton.2 (by decide)) houter'
      (by decide +kernel)
  have hitem : ∀ p ∈ items.zip items', Alike 3 p.1.text p.2.text := by
    refine List.forall_mem_cons.2 ⟨.same, List.forall_mem_singleton.2 ?_⟩
    exact @Alike.text 3 _ _ ['x'] (by decide +kernel) (by decide +kernel)
  have hvalue : Alike 1 (Item.object inner).text (Item.object inner').text := by
    refine @Alike.object 1 _ _ inner inner'
      [(member 'y' (.array items), member 'y' (.array items')),
        (member 'x' (digit '0'), member 'x' (digit '0'))]
      hinner hinner' (.refl _) (.swap ..) ?_ ?_
    · exact List.forall_mem_cons.2 ⟨rfl, List.forall_mem_singleton.2 rfl⟩
    · refine List.forall_mem_cons.2 ⟨?_, List.forall_mem_singleton.2 .same⟩
      exact @Alike.array 2 _ _ (items.zip items') hitems hitems' hitem
  have halike := @AlikeFor.mk ⟨["a", "b"]⟩ _ _ outer outer' [(member 'a' (.object inner), a')]
    hline hline' (.refl _) (.refl _) (List.forall_mem_singleton.2 rfl)
    (List.forall_mem_singleton.2 hvalue)
  exact ⟨halike, append_eq_of_alikeFor halike⟩

end Line
end TelemetryLog
