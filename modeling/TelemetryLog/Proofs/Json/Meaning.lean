import TelemetryLog.Proofs.Json.Completeness

/-!
# A text means one thing

The grammar says how a text may be taken apart, and in principle there could be two ways.  There is
only one that counts: the machine takes every text of a value as that value, and it has no choice
(`valueText_unique`).  So whichever way the parts of a container are found, if they are texts of
values, they are what the container is made of (`MembersText.stands`, `ItemsText.eq_array`).

This is how a statement may speak of the members of a text without reading it first.  It names some
parts with the commas between them (`MembersText`, `ItemsText`), and what they mean follows, also
where texts inside them hold commas and brackets of their own.

The machine only reads whole objects, and the text of a value has to stand somewhere in one.
Behind so many brackets as there are containers open around the value (`openArrays`) it can be read
like any other item.  There must be at least one, since a bare value is not something the machine
would start with; hence the `depth + 1` in the statements.
-/

set_option autoImplicit false

namespace TelemetryLog
namespace Json

/-! ## The inside of a container -/

/-- What stands between the brackets of an array: these items, which are values inside so many open
containers. -/
structure ItemsText (depth : Nat) (items : List Item) (cs : List Char) : Prop where
  /-- There is only space around the values. -/
  spaced : ∀ i ∈ items, i.isSpaced
  /-- They are values. -/
  values : ∀ i ∈ items, ValueText depth i.text i.value
  /-- There are commas between them. -/
  text : Separated (items.map Item.chars) cs

/-- What stands between the braces of an object: these members, whose values are inside so many open
containers. -/
structure MembersText (depth : Nat) (members : List Member) (cs : List Char) : Prop where
  /-- The keys are spelled right, and there is only space around them and the values. -/
  spelled : ∀ m ∈ members, m.isSpelled
  /-- The values are values. -/
  values : ∀ m ∈ members, ValueText depth m.item.text m.item.value
  /-- There are commas between the members. -/
  text : Separated (members.map Member.chars) cs

instance (i : Item) : Decidable i.isSpaced :=
  inferInstanceAs (Decidable (IsSpace i.before ∧ IsSpace i.after))

instance (m : Member) : Decidable m.isSpelled :=
  inferInstanceAs (Decidable
    (IsSpace m.before ∧ BodyText m.body m.key.toList ∧ IsSpace m.after ∧ m.item.isSpaced))

variable {depth : Nat} {cs : List Char} {v w : Json} {items : List Item} {members : List Member}

theorem separated_cons {a b : List Char} {more : List (List Char)}
    (h : Separated (b :: more) cs) : Separated (a :: b :: more) (a ++ ',' :: cs) := by
  generalize htexts : b :: more = texts at h ⊢
  cases h with
  | none => cases htexts
  | some front last =>
    have hsome := Separated.some (a :: front) last
    simpa using hsome

/-- Parts with commas between them and no space. -/
theorem separated_intercalate (parts : List (List Char)) :
    Separated parts ([','].intercalate parts) := by
  induction parts with
  | nil => exact .none isSpace_nil
  | cons a parts ih =>
    cases parts with
    | nil =>
      rw [List.intercalate_singleton]
      exact .some [] a
    | cons b more =>
      rw [List.intercalate_cons_cons, List.append_assoc]
      exact separated_cons ih

/-- The array of these items, without space around it. -/
def Item.array (items : List Item) : Item :=
  ⟨[], '[' :: ([','].intercalate (items.map Item.chars) ++ [']']), [],
    .array (items.map Item.value)⟩

/-- The object of these members, without space around it. -/
def Item.object (members : List Member) : Item :=
  ⟨[], '\x7b' :: ([','].intercalate (members.map Member.chars) ++ ['\x7d']), [],
    .object (collect (members.map Member.entry))⟩

/-- The text of an array. -/
theorem ItemsText.valueText (h : ItemsText (depth + 1) items cs) (hdepth : depth < 127) :
    ValueText depth ('[' :: (cs ++ [']'])) (.array (items.map Item.value)) :=
  .array hdepth h.spaced h.values h.text

/-- The text of an inner object. -/
theorem MembersText.valueText (h : MembersText (depth + 1) members cs) (hdepth : depth < 127)
    (hv : Stands (members.map Member.entry) v) : ValueText depth ('\x7b' :: (cs ++ ['\x7d'])) v :=
  .object hdepth h.spelled h.values h.text hv

/-- The text of an object that is not inside any other. -/
theorem MembersText.objectText (h : MembersText 1 members cs) :
    ObjectText ('\x7b' :: (cs ++ ['\x7d'])) (collect (members.map Member.entry)) :=
  .mk h.spelled h.values h.text (keeps_collect _)

namespace Reader

/-! ## One reading -/

/-- So many open arrays, all of them empty so far. -/
def openArrays (depth : Nat) : List Frame := List.replicate depth (.array [])

theorem length_openArrays (depth : Nat) : (openArrays depth).length = depth :=
  List.length_replicate

theorem openArrays_succ (depth : Nat) :
    openArrays (depth + 1) = .array [] :: openArrays depth :=
  List.replicate_succ

/-- Inside an array the text of a value, with a space behind it, leads to that value. -/
theorem run_openArrays (h : ValueText (depth + 1) cs v) :
    run (.value true (openArrays (depth + 1))) (cs ++ [' ']) =
      some (.afterItem [v] (openArrays depth)) := by
  have hdeliver :
      deliver v (openArrays (depth + 1)) = some (.afterItem [v] (openArrays depth)) := by
    rw [openArrays_succ]
    rfl
  exact takes_of_valueText h true _ _ ' ' [] (length_openArrays _) hdeliver (by decide)

/-- Where an object is read as a value, the inner object of its members is that value. -/
theorem nested?_of_run_openArrays (h : MembersText (depth + 2) members cs)
    (hrun : run (.value true (openArrays (depth + 1))) ('\x7b' :: (cs ++ ['\x7d']) ++ [' ']) =
      some (.afterItem [v] (openArrays depth))) :
    nested? (members.map Member.entry) = some v := by
  rw [List.cons_append, List.append_assoc, List.singleton_append] at hrun
  obtain ⟨s, hmove, hrest⟩ := exists_move_of_run_cons hrun
  cases hmove with
  | space _ hspace => exact absurd hspace (by decide)
  | bare hbare => exact absurd hbare (by decide)
  | object hdepth =>
    have htakes : ∀ m ∈ members,
        Takes ((openArrays (depth + 1)).length + 1) m.item.text m.item.value := by
      rw [length_openArrays]
      exact fun m hm => takes_of_valueText (h.values m hm)
    rw [run_members h.spelled htakes h.text] at hrest
    obtain ⟨t, hclose, hspace⟩ := Option.bind_eq_some_iff.1 hrest
    rcases closeObject_eq_some hclose with ⟨hnil, -⟩ | ⟨w, hw, hdeliver⟩
    · rw [openArrays_succ] at hnil
      cases hnil
    · rw [openArrays_succ] at hdeliver
      cases hdeliver
      cases hspace
      rwa [List.reverse_reverse] at hw

end Reader

/-- **A text means one thing.** -/
theorem valueText_unique (h : ValueText (depth + 1) cs v) (h' : ValueText (depth + 1) cs w) :
    v = w := by
  have hrun := Reader.run_openArrays h
  rw [Reader.run_openArrays h'] at hrun
  cases hrun
  rfl

/-- There is room for what begins with a bracket. -/
theorem depth_lt_of_valueText (h : ValueText depth ('[' :: cs) v) : depth < 127 := by
  generalize htext : '[' :: cs = text at h
  cases h with
  | scalar h =>
    have hbare := (isBare_of_scalarText h).2 '[' (by rw [← htext]; exact List.mem_cons_self)
    exact absurd hbare (by decide)
  | text => cases htext
  | array hdepth => exact hdepth
  | object hdepth => exact hdepth

/-- An array is made of its items, whichever way they are found. -/
theorem ItemsText.eq_array (h : ItemsText (depth + 2) items cs)
    (hv : ValueText (depth + 1) ('[' :: (cs ++ [']'])) v) : v = .array (items.map Item.value) :=
  valueText_unique hv (h.valueText (depth_lt_of_valueText hv))

/-- An inner object is made of its members, whichever way they are found. -/
theorem MembersText.stands (h : MembersText (depth + 2) members cs)
    (hv : ValueText (depth + 1) ('\x7b' :: (cs ++ ['\x7d'])) v) :
    Stands (members.map Member.entry) v :=
  stands_of_nested? (Reader.nested?_of_run_openArrays h (Reader.run_openArrays hv))

end Json
end TelemetryLog
