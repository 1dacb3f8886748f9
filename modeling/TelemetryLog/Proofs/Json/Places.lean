import TelemetryLog.Proofs.Json.Rendering

/-!
# Where a number goes

A path leads to a part of a text: at each container it names an item by its place or a member by
its key.  `StandsAt` says what stands in a text at the end of a path, and `WrittenAt` what stands in
the compact text of a value there, with all that is written before it and after it.

A number that stands at the end of a path in the text of a value is written at the end of the same
path (`StandsAt.exists_writtenAt`), whatever is done to the order of the members on the way.

A member may be overwritten by a later one with its key, and then a path through it leads to nothing
that is kept.  So `StandsAt` asks at every object that the member last, and the statement is about
the literals that count.  Of the others nothing is written.

An object that stands for a number is a container in the text and none in the value.  No path leads
through it to a literal, because its only member is a text between quotes (`not_writtenAt_text`).
So the number that such an object spells is not one that stands at the end of a path, and nothing is
said of it here.
-/

set_option autoImplicit false

namespace TelemetryLog
namespace Json

variable {depth : Nat} {cs lit pre post : List Char} {n : Number} {v w : Json}

/-- A step of a path into a container. -/
inductive Turn where
  /-- To the item at this place of an array. -/
  | item (index : Nat)
  /-- To the value of this key of an object. -/
  | member (key : String)
deriving DecidableEq, Repr

variable {path : List Turn}

/-- In the text of a value inside so many open containers this part stands where the path leads.
Of members with one key the path leads to the last. -/
inductive StandsAt (part : List Char) : Nat → List Turn → List Char → Prop
  /-- It is the whole text. -/
  | here {depth : Nat} : StandsAt part depth [] part
  /-- It stands in an item of an array. -/
  | item {depth : Nat} {cs : List Char} {path : List Turn} {front back : List Item} {i : Item}
      (h : ItemsText (depth + 1) (front ++ i :: back) cs)
      (hpart : StandsAt part (depth + 1) path i.text) :
      StandsAt part depth (.item front.length :: path) ('[' :: (cs ++ [']']))
  /-- It stands in the value of a member of an object. -/
  | member {depth : Nat} {cs : List Char} {path : List Turn} {front back : List Member} {m : Member}
      (h : MembersText (depth + 1) (front ++ m :: back) cs) (hlast : ∀ m' ∈ back, m'.key ≠ m.key)
      (hpart : StandsAt part (depth + 1) path m.item.text) :
      StandsAt part depth (.member m.key :: path) ('\x7b' :: (cs ++ ['\x7d']))

/-- The text that is written for a member. -/
def renderMember (m : String × Json) : List Char := quote m.1.toList ++ ':' :: render m.2

/-- In the compact text of the last value, the first one is written where the path leads, between
these two texts. -/
inductive WrittenAt (w : Json) : List Turn → Json → List Char → List Char → Prop
  /-- There is nothing else. -/
  | here : WrittenAt w [] w [] []
  /-- It is written in an item, with the other items before and after. -/
  | item {path : List Turn} {front back : List Json} {i : Json} {pre post : List Char}
      (h : WrittenAt w path i pre post) :
      WrittenAt w (.item front.length :: path) (.array (front ++ i :: back))
        ('[' :: (front.flatMap (render · ++ [',']) ++ pre))
        (post ++ (back.flatMap (',' :: render ·) ++ [']']))
  /-- It is written in the value of a member, with the other members before and after. -/
  | member {path : List Turn} {front back : List (String × Json)} {key : String} {v : Json}
      {pre post : List Char} (h : WrittenAt w path v pre post) :
      WrittenAt w (.member key :: path) (.object (front ++ (key, v) :: back))
        ('\x7b' :: (front.flatMap (renderMember · ++ [',']) ++ (quote key.toList ++ ':' :: pre)))
        (post ++ (back.flatMap (',' :: renderMember ·) ++ ['\x7d']))

/-! ## The text that is written -/

theorem intercalate_append (front : List (List Char)) (part : List Char)
    (back : List (List Char)) :
    [','].intercalate (front ++ part :: back) =
      front.flatMap (· ++ [',']) ++ (part ++ back.flatMap (',' :: ·)) := by
  induction front with
  | nil =>
    rw [List.nil_append, List.flatMap_nil, List.nil_append]
    induction back generalizing part with
    | nil => simp
    | cons next back ih =>
      rw [List.intercalate_cons_cons, ih, List.flatMap_cons, List.append_assoc]
      rfl
  | cons a front ih =>
    obtain ⟨b, more, hmore⟩ : ∃ b more, front ++ part :: back = b :: more :=
      List.exists_cons_of_ne_nil (by simp)
    rw [List.cons_append, hmore, List.intercalate_cons_cons, ← hmore, ih, List.flatMap_cons]
    simp only [List.append_assoc]

theorem renderItems_append (front : List Json) (i : Json) (back : List Json) :
    renderItems (front ++ i :: back) =
      front.flatMap (render · ++ [',']) ++ (render i ++ back.flatMap (',' :: render ·)) := by
  have hchars : Item.chars ∘ Item.ofValue = render := funext fun v => List.append_nil _
  rw [renderItems_eq, List.map_map, hchars, List.map_append, List.map_cons, intercalate_append,
    List.flatMap_map, List.flatMap_map]

theorem renderMembers_append (front : List (String × Json)) (m : String × Json)
    (back : List (String × Json)) :
    renderMembers (front ++ m :: back) =
      front.flatMap (renderMember · ++ [',']) ++
        (renderMember m ++ back.flatMap (',' :: renderMember ·)) := by
  have hchars : Member.chars ∘ Member.ofEntry = renderMember := by
    funext m
    simp [Member.chars, Member.ofEntry, Item.chars, Item.ofValue, renderMember, quote]
  rw [renderMembers_eq, List.map_map, hchars, List.map_append, List.map_cons, intercalate_append,
    List.flatMap_map, List.flatMap_map]

/-- **What is written at a place stands there in the text.** -/
theorem WrittenAt.render_eq (h : WrittenAt w path v pre post) :
    render v = pre ++ (render w ++ post) := by
  induction h with
  | here => simp
  | item _ ih => simp [render, renderItems_append, ih]
  | member _ ih => simp [render, renderMembers_append, renderMember, ih]

/-! ## The text that was sent -/

/-- A value that ends a path is not inside a text. -/
theorem not_writtenAt_text {s : String} (hw : ∀ s, w ≠ .text s) :
    ¬WrittenAt w path (.text s) pre post := by
  intro h
  cases h
  exact hw s rfl

/-- **A number is written at the place where it stands**, if it stands in the text of a value. -/
theorem StandsAt.exists_writtenAt (h : StandsAt lit depth path cs) (hlit : NumberText lit n)
    (hpos : 0 < depth) (hv : ValueText depth cs v) :
    ∃ pre post, WrittenAt (.number n) path v pre post := by
  induction h generalizing v with
  | @here depth =>
    obtain ⟨depth, rfl⟩ := Nat.exists_eq_succ_of_ne_zero (Nat.ne_of_gt hpos)
    rw [valueText_unique hv (.scalar (.number hlit))]
    exact ⟨[], [], .here⟩
  | @item depth _ path front back i h _ ih =>
    obtain ⟨depth, rfl⟩ := Nat.exists_eq_succ_of_ne_zero (Nat.ne_of_gt hpos)
    obtain ⟨pre, post, hwritten⟩ := ih (Nat.succ_pos _) (h.values i (by simp))
    rw [h.eq_array hv, List.map_append, List.map_cons, ← List.length_map Item.value]
    exact ⟨_, _, .item hwritten⟩
  | @member depth _ path front back m h hlast _ ih =>
    obtain ⟨depth, rfl⟩ := Nat.exists_eq_succ_of_ne_zero (Nat.ne_of_gt hpos)
    obtain ⟨pre, post, hwritten⟩ := ih (Nat.succ_pos _) (h.values m (by simp))
    have hstands := h.stands hv
    rw [List.map_append, List.map_cons] at hstands
    generalize hsent : front.map Member.entry ++ m.entry :: back.map Member.entry = sent at hstands
    cases hstands with
    | object _ hkept =>
      have hmem : m.entry ∈ _ := (hkept.mem m.entry).2
        ⟨_, _, hsent.symm, List.forall_mem_map.2 hlast⟩
      obtain ⟨before, after, rfl⟩ := List.append_of_mem hmem
      exact ⟨_, _, .member hwritten⟩
    | number =>
      -- the only member of an object that stands for a number is a text
      obtain ⟨-, hentry, -⟩ :
          front.map Member.entry = [] ∧ m.entry = _ ∧ back.map Member.entry = [] := by
        simpa [List.append_eq_singleton_iff] using hsent
      rw [show m.item.value = _ from congrArg Prod.snd hentry] at hwritten
      exact absurd hwritten (not_writtenAt_text (by simp))

end Json
end TelemetryLog
