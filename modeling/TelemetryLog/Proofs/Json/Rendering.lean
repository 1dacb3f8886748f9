import TelemetryLog.Proofs.Json.Meaning
import TelemetryLog.Proofs.Json.Spelling

/-!
# Reading back what was written

The compact text of a value is again a text of that value, with one exception.  Members are written
in the order of their keys, and so the key that is set apart for numbers may come first although it
did not when the object was sent.  Such an object is not read as one.

Which of the two it is depends on the value alone (`HasSetApart`).  What is known of a value that
was read from a text is said without the text (`Shaped`), and from this both follow by induction:
the compact text is in the grammar (`valueText_render`), or the machine refuses it wherever a value
may stand (`Reader.refuses_render`).

## How it goes

`Shaped` holds what the two inductions need and nothing more: a number is the number of some
literal, the keys of an object ascend, and there is room for every container.  A value that was
built by hand may have none of this, and its compact text need not be read back.

The compact text is a text of the grammar in which every space is left out, so the items and members
that are written can be named (`Item.ofValue`, `Member.ofEntry`), and the first part is an
application of the grammar's own rules.

The second part is about what the machine does not do.  An object that is set apart, and has nothing
in it that is, is read up to its closing brace by the first part and refused there
(`nested?_of_setApart`).  Around it the refusal is handed on from part to container: the parts
before the first that is refused are taken, so the machine gets to it and no further.
`run_parts_eq_none` is the counterpart of `run_parts`, with the same `Delimits` for arrays and
objects.
-/

set_option autoImplicit false

namespace TelemetryLog
namespace Json

variable {depth : Nat} {cs : List Char} {v : Json} {items : List Json}
  {members sent kept : List (String × Json)}

/-! ## Values that were read -/

/-- What is known of a value inside so many open containers, whatever text it was read from. -/
inductive Shaped : Nat → Json → Prop
  /-- Nothing is known of `null`, -/
  | null {depth : Nat} : Shaped depth .null
  /-- of truth values -/
  | bool {depth : Nat} {b : Bool} : Shaped depth (.bool b)
  /-- and of texts. -/
  | text {depth : Nat} {s : String} : Shaped depth (.text s)
  /-- The parts of a number are such that it can be written. -/
  | number {depth : Nat} {n : Number} (h : NumberText n.text n) : Shaped depth (.number n)
  /-- An array is not too deep. -/
  | array {depth : Nat} {items : List Json} (hdepth : depth < 127)
      (hitems : ∀ i ∈ items, Shaped (depth + 1) i) : Shaped depth (.array items)
  /-- An object has its keys in ascending order, and the key that is set apart for numbers is not
  the only one. -/
  | object {depth : Nat} {members : List (String × Json)} (hdepth : depth < 127)
      (hsorted : members.Pairwise fun a b => a.1 < b.1)
      (halone : ∀ v, members ≠ [(numberKey, v)])
      (hmembers : ∀ m ∈ members, Shaped (depth + 1) m.2) : Shaped depth (.object members)

theorem shaped_of_valueText (h : ValueText depth cs v) : Shaped depth v := by
  induction h with
  | scalar h =>
    cases h with
    | null => exact .null
    | yes => exact .bool
    | no => exact .bool
    | number h => exact .number (numberText_text h)
  | text => exact .text
  | array hdepth _ _ _ ih =>
    refine .array hdepth ?_
    rw [List.forall_mem_map]
    exact ih
  | @object depth _ members _ hdepth _ _ _ hv ih =>
    have hsent : ∀ m ∈ members.map Member.entry, Shaped (depth + 1) m.2 :=
      List.forall_mem_map.2 ih
    generalize members.map Member.entry = sent at hv hsent
    cases hv with
    | object hfirst hkept =>
      exact .object hdepth hkept.sorted (fun _ => hkept.ne_singleton hfirst) fun m hm =>
        hsent m (hkept.mem_sent hm)
    | number h => exact .number (numberText_text h)

/-! ## The exception -/

/-- `w` is a part of the value at any depth, or the value itself. -/
inductive Within (w : Json) : Json → Prop
  /-- The value itself. -/
  | here : Within w w
  /-- A part of an item. -/
  | item {items : List Json} {i : Json} (hi : i ∈ items) (h : Within w i) : Within w (.array items)
  /-- A part of the value of a member. -/
  | member {members : List (String × Json)} {m : String × Json} (hm : m ∈ members)
      (h : Within w m.2) : Within w (.object members)

/-- The smallest key is the one that is set apart for numbers. -/
structure SetApart (members : List (String × Json)) : Prop where
  /-- It is one of the keys. -/
  mem : ∃ m ∈ members, m.1 = "$serde_json::private::Number"
  /-- No other key comes before it. -/
  least : ∀ m ∈ members, "$serde_json::private::Number" ≤ m.1

/-- Somewhere in the value there is an object whose smallest key is the one that is set apart for
numbers. -/
def HasSetApart (v : Json) : Prop :=
  ∃ members, Within (.object members) v ∧ SetApart members

theorem not_hasSetApart_of_leaf (harray : ∀ items, v ≠ .array items)
    (hobject : ∀ members, v ≠ .object members) : ¬HasSetApart v := by
  rintro ⟨members, hwithin, -⟩
  cases hwithin with
  | here => exact hobject members rfl
  | item => exact harray _ rfl
  | member => exact hobject _ rfl

theorem hasSetApart_array_iff :
    HasSetApart (.array items) ↔ ∃ i ∈ items, HasSetApart i := by
  constructor
  · rintro ⟨members, hwithin, hset⟩
    cases hwithin with
    | item hi h => exact ⟨_, hi, members, h, hset⟩
  · rintro ⟨i, hi, members, hwithin, hset⟩
    exact ⟨members, .item hi hwithin, hset⟩

theorem hasSetApart_object_iff :
    HasSetApart (.object members) ↔ SetApart members ∨ ∃ m ∈ members, HasSetApart m.2 := by
  constructor
  · rintro ⟨inner, hwithin, hset⟩
    cases hwithin with
    | here => exact .inl hset
    | member hm h => exact .inr ⟨_, hm, inner, h, hset⟩
  · rintro (hset | ⟨m, hm, inner, hwithin, hset⟩)
    · exact ⟨members, .here, hset⟩
    · exact ⟨inner, .member hm hwithin, hset⟩

/-- In ascending order the smallest key comes first. -/
theorem setApart_iff (h : members.Pairwise fun a b => a.1 < b.1) :
    SetApart members ↔ ∃ m ∈ members.head?, m.1 = "$serde_json::private::Number" := by
  cases members with
  | nil =>
    constructor
    · rintro ⟨⟨m, hm, -⟩, -⟩
      cases hm
    · rintro ⟨m, hm, -⟩
      cases hm
  | cons a more =>
    have hmore := (List.pairwise_cons.1 h).1
    constructor
    · rintro ⟨⟨m, hm, hkey⟩, hleast⟩
      rcases List.mem_cons.1 hm with rfl | hm
      · exact ⟨m, rfl, hkey⟩
      · have hlt := hmore m hm
        rw [hkey] at hlt
        exact absurd hlt (String.not_lt.2 (hleast a List.mem_cons_self))
    · rintro ⟨m, hm, hkey⟩
      cases hm
      refine ⟨⟨a, List.mem_cons_self, hkey⟩, fun m hm => ?_⟩
      rw [← hkey]
      rcases List.mem_cons.1 hm with rfl | hm
      · exact String.le_refl _
      · exact String.not_lt.1 (String.lt_asymm (hmore m hm))

/-! ## Without the exception -/

/-- The item that is written for a value. -/
def Item.ofValue (v : Json) : Item := ⟨[], render v, [], v⟩

theorem Item.isSpaced_ofValue (v : Json) : (Item.ofValue v).isSpaced :=
  ⟨isSpace_nil, isSpace_nil⟩

/-- The member that is written for a key and a value. -/
def Member.ofEntry (m : String × Json) : Member :=
  ⟨[], escape m.1.toList, [], m.1, Item.ofValue m.2⟩

theorem Member.isSpelled_ofEntry (m : String × Json) : (Member.ofEntry m).isSpelled :=
  ⟨isSpace_nil, bodyText_escape _, isSpace_nil, Item.isSpaced_ofValue _⟩

theorem renderItems_eq (items : List Json) :
    renderItems items = [','].intercalate ((items.map Item.ofValue).map Item.chars) := by
  induction items with
  | nil => rfl
  | cons v items ih =>
    have hv : (Item.ofValue v).chars = render v := List.append_nil _
    cases items with
    | nil => simp [renderItems, hv]
    | cons w more => simp [renderItems, hv, ih]

theorem renderMembers_eq (members : List (String × Json)) :
    renderMembers members = [','].intercalate ((members.map Member.ofEntry).map Member.chars) := by
  induction members with
  | nil => rfl
  | cons m members ih =>
    have hm : (Member.ofEntry m).chars = quote m.1.toList ++ ':' :: render m.2 := by
      simp [Member.chars, Member.ofEntry, Item.chars, Item.ofValue, quote]
    cases members with
    | nil => simp [renderMembers, hm]
    | cons m' more => simp [renderMembers, hm, ih]

theorem itemsText_renderItems (h : ∀ i ∈ items, ValueText depth (render i) i) :
    ItemsText depth (items.map Item.ofValue) (renderItems items) := by
  refine ⟨?_, ?_, renderItems_eq items ▸ separated_intercalate _⟩
  · exact List.forall_mem_map.2 fun i _ => Item.isSpaced_ofValue i
  · exact List.forall_mem_map.2 h

theorem membersText_renderMembers (h : ∀ m ∈ members, ValueText depth (render m.2) m.2) :
    MembersText depth (members.map Member.ofEntry) (renderMembers members) := by
  refine ⟨?_, ?_, renderMembers_eq members ▸ separated_intercalate _⟩
  · exact List.forall_mem_map.2 fun m _ => Member.isSpelled_ofEntry m
  · exact List.forall_mem_map.2 h

/-- **The compact text of a value is a text of it**, if no object in it is set apart. -/
theorem valueText_render (h : Shaped depth v) (hnone : ¬HasSetApart v) :
    ValueText depth (render v) v := by
  induction h with
  | null => exact .scalar .null
  | @bool _ b =>
    cases b with
    | true => exact .scalar .yes
    | false => exact .scalar .no
  | text => exact .text (bodyText_escape _)
  | number h => exact .scalar (.number h)
  | @array _ items hdepth _ ih =>
    rw [hasSetApart_array_iff] at hnone
    have hitems := itemsText_renderItems fun i hi => ih i hi fun hset => hnone ⟨i, hi, hset⟩
    have hvalue := hitems.valueText hdepth
    rwa [List.map_map, show Item.value ∘ Item.ofValue = id from rfl, List.map_id] at hvalue
  | @object _ members hdepth hsorted _ _ ih =>
    rw [hasSetApart_object_iff] at hnone
    have hmembers :=
      membersText_renderMembers fun m hm => ih m hm fun hset => hnone (.inr ⟨m, hm, hset⟩)
    refine hmembers.valueText hdepth ?_
    rw [List.map_map, show Member.entry ∘ Member.ofEntry = id from rfl, List.map_id]
    refine .object (fun m hm hkey => hnone (.inl ?_)) (keeps_self hsorted)
    exact (setApart_iff hsorted).2 ⟨m, hm, hkey⟩

/-! ## With the exception -/

/-- An object that is set apart is not read as one. -/
theorem nested?_of_setApart (hsorted : members.Pairwise fun a b => a.1 < b.1)
    (halone : ∀ v, members ≠ [(numberKey, v)]) (hset : SetApart members) :
    nested? members = none := by
  obtain ⟨m, hm, hkey⟩ := (setApart_iff hsorted).1 hset
  obtain ⟨more, rfl⟩ := List.head?_eq_some_iff.1 hm
  obtain ⟨key, value⟩ := m
  obtain rfl : key = numberKey := hkey
  unfold nested?
  dsimp only
  rw [if_pos rfl]
  split
  · exact absurd rfl (halone _)
  · rfl

namespace Reader

variable {stack : List Frame} {first : Bool}

/-- Wherever a value may stand, inside so many containers, the machine does not get to the end of
the text. -/
def Refuses (depth : Nat) (cs : List Char) : Prop :=
  ∀ (first : Bool) (stack : List Frame), stack.length = depth → run (.value first stack) cs = none

theorem run_append_eq_none {s : State} (h : run s cs = none) (rest : List Char) :
    run s (cs ++ rest) = none := by
  rw [run_append, h, Option.bind_none]

theorem run_item_eq_none {i : Item} (hspaced : i.isSpaced) (h : Refuses depth i.text)
    (hdepth : stack.length = depth) : run (.value first stack) i.chars = none := by
  rw [Item.chars, run_space rfl hspaced.1]
  exact run_append_eq_none (h first stack hdepth) _

theorem run_member_eq_none {m : Member} {members : List (String × Json)} (hspelled : m.isSpelled)
    (h : Refuses (stack.length + 1) m.item.text) :
    run (.key first members stack) m.chars = none := by
  obtain ⟨hbefore, hbody, hafter, hspaced⟩ := hspelled
  rw [Member.chars, run_space rfl hbefore, run_cons_of_move .key, run_key hbody,
    run_space rfl hafter, run_cons_of_move .colon]
  exact run_item_eq_none hspaced h rfl

section Containers

variable {α : Type} {before : Bool → List α → State} {after : List α → State}
  {close : List α → Option State} {bracket : Char}

/-- Wherever a part may begin, the machine does not get to its end. -/
def RefusesPart (before : Bool → List α → State) (cs : List Char) : Prop :=
  ∀ (first : Bool) (xs : List α), run (before first xs) cs = none

theorem run_parts_eq_none (hcontainer : Delimits before after close bracket)
    {front : List (List Char)} {last : List Char} {first : Bool} {xs : List α}
    (hparts : ∀ part ∈ front ++ [last],
      (∃ x, TakesPart before after part x) ∨ RefusesPart before part)
    (hrefused : ∃ part ∈ front ++ [last], RefusesPart before part) :
    run (before first xs) (front.flatMap (· ++ [',']) ++ last) = none := by
  induction front generalizing first xs with
  | nil =>
    obtain ⟨part, hpart, h⟩ := hrefused
    obtain rfl := List.mem_singleton.1 hpart
    exact h first xs
  | cons part front ih =>
    rw [List.flatMap_cons, List.append_assoc, List.append_assoc]
    by_cases hpart : RefusesPart before part
    · exact run_append_eq_none (hpart first xs) _
    · obtain ⟨hfirst, hfront⟩ := List.forall_mem_cons.1 hparts
      obtain ⟨x, htakes⟩ := hfirst.resolve_right hpart
      rw [List.singleton_append, htakes first xs ',' _ (by decide),
        run_cons_of_move (hcontainer.comma _)]
      refine ih hfront ?_
      -- the part that is refused is one of the others
      obtain ⟨other, hother, h⟩ := hrefused
      rcases List.mem_cons.1 hother with rfl | hother
      · exact absurd h hpart
      · exact ⟨other, hother, h⟩

/-- **A container is refused if one of its parts is**, provided that the others are taken. -/
theorem run_separated_eq_none (hcontainer : Delimits before after close bracket)
    {parts : List (List Char)}
    (hparts : ∀ part ∈ parts, (∃ x, TakesPart before after part x) ∨ RefusesPart before part)
    (hrefused : ∃ part ∈ parts, RefusesPart before part) (h : Separated parts cs) :
    run (before true []) cs = none := by
  cases h with
  | none =>
    obtain ⟨part, hpart, -⟩ := hrefused
    cases hpart
  | some front last => exact run_parts_eq_none hcontainer hparts hrefused

end Containers

/-- One item among others that is refused. -/
theorem run_renderItems_eq_none
    (hitems : ∀ i ∈ items, Takes (stack.length + 1) (render i) i ∨
      Refuses (stack.length + 1) (render i))
    (hrefused : ∃ i ∈ items, Refuses (stack.length + 1) (render i)) :
    run (.value true (.array [] :: stack)) (renderItems items) = none := by
  have hrefuses {i : Json} (h : Refuses (stack.length + 1) (render i)) :
      RefusesPart (fun first items => .value first (.array items :: stack))
        (Item.ofValue i).chars :=
    fun _ _ => run_item_eq_none (Item.isSpaced_ofValue i) h rfl
  rw [renderItems_eq, List.map_map]
  refine run_separated_eq_none (delimits_array stack) ?_ ?_ (separated_intercalate _)
  · refine List.forall_mem_map.2 fun i hi => (hitems i hi).imp (fun htakes => ⟨i, ?_⟩) hrefuses
    exact fun _ _ _ _ hd => run_item (Item.isSpaced_ofValue i) htakes rfl rfl hd
  · obtain ⟨i, hi, h⟩ := hrefused
    exact ⟨_, List.mem_map_of_mem hi, hrefuses h⟩

/-- One member among others whose value is refused. -/
theorem run_renderMembers_eq_none
    (hmembers : ∀ m ∈ members, Takes (stack.length + 1) (render m.2) m.2 ∨
      Refuses (stack.length + 1) (render m.2))
    (hrefused : ∃ m ∈ members, Refuses (stack.length + 1) (render m.2)) :
    run (.key true [] stack) (renderMembers members) = none := by
  have hrefuses {m : String × Json} (h : Refuses (stack.length + 1) (render m.2)) :
      RefusesPart (fun first members => .key first members stack) (Member.ofEntry m).chars :=
    fun _ _ => run_member_eq_none (Member.isSpelled_ofEntry m) h
  rw [renderMembers_eq, List.map_map]
  refine run_separated_eq_none (delimits_object stack) ?_ ?_ (separated_intercalate _)
  · refine List.forall_mem_map.2 fun m hm => (hmembers m hm).imp (fun htakes => ⟨m, ?_⟩) hrefuses
    exact fun _ _ _ _ hd => run_member (Member.isSpelled_ofEntry m) htakes hd
  · obtain ⟨m, hm, h⟩ := hrefused
    exact ⟨_, List.mem_map_of_mem hm, hrefuses h⟩

/-- **The compact text of a value with an object that is set apart is refused** inside every
container. -/
theorem refuses_render (h : Shaped depth v) (hpos : 0 < depth) (hset : HasSetApart v) :
    Refuses depth (render v) := by
  have htakes {depth : Nat} {w : Json} (hw : Shaped depth w)
      (ih : HasSetApart w → Refuses depth (render w)) :
      Takes depth (render w) w ∨ Refuses depth (render w) := by
    by_cases hset : HasSetApart w
    · exact .inr (ih hset)
    · exact .inl (takes_of_valueText (valueText_render hw hset))
  induction h with
  | array hdepth hitems ih =>
    rintro first stack rfl
    rw [render, run_cons_of_move (.array hdepth)]
    obtain ⟨i, hi, hset⟩ := hasSetApart_array_iff.1 hset
    exact run_append_eq_none
      (run_renderItems_eq_none (fun i hi => htakes (hitems i hi) (ih i hi (Nat.succ_pos _)))
        ⟨i, hi, ih i hi (Nat.succ_pos _) hset⟩) _
  | @object _ members hdepth hsorted halone hmembers ih =>
    rintro first stack rfl
    rw [render, run_cons_of_move (.object hdepth)]
    by_cases hinner : ∃ m ∈ members, HasSetApart m.2
    · obtain ⟨m, hm, hset⟩ := hinner
      exact run_append_eq_none (run_renderMembers_eq_none
        (fun m hm => htakes (hmembers m hm) (ih m hm (Nat.succ_pos _)))
        ⟨m, hm, ih m hm (Nat.succ_pos _) hset⟩) _
    · -- all members are read, and then the object is refused at its closing brace
      have hset := (hasSetApart_object_iff.1 hset).resolve_right hinner
      have htext := membersText_renderMembers fun m hm =>
        valueText_render (hmembers m hm) fun hset => hinner ⟨m, hm, hset⟩
      rw [run_members htext.spelled (fun m hm => takes_of_valueText (htext.values m hm)) htext.text,
        List.map_map, show Member.entry ∘ Member.ofEntry = id from rfl, List.map_id]
      obtain ⟨f, stack, rfl⟩ := List.exists_cons_of_length_pos hpos
      rw [closeObject, List.reverse_reverse, nested?_of_setApart hsorted halone hset]
      rfl
  | _ => exact absurd hset (not_hasSetApart_of_leaf (by simp) (by simp))

end Reader

end Json
end TelemetryLog
