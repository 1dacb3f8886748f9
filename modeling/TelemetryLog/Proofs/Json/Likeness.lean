import TelemetryLog.Proofs.Json.Meaning

/-!
# Texts that mean the same

Two texts can differ in many ways and mean the same: in the space between their tokens, in how
characters are spelled, in the order of the members, and in members whose key occurs again.
`Alike` says of two texts that these are their only differences, at any depth, and it says so
without values: it pairs the items of two arrays in order, and of two objects those members whose
key does not occur again (`lasting`), in any order.

Texts that are alike are texts of one value (`Alike.value_eq`).  In an object only the lasting
members are left, so two objects with the same lasting members are equal.  The order of the members
could only matter for an object that stands for a number, and that one has no other member.

The converse is not true, and is not wanted.  A number that is spelled `1E2` in one text and `1e+2`
in the other is one number, but the two texts are not `Alike`: what becomes of a literal is the
subject of `Proofs.Json.Spelling`.  And an object that stands for a number means the same as the
literal, which is a text of another shape.

Keys are compared as the characters they mean and not as they are spelled, so a key with an escape
in it may be repeated without one.
-/

set_option autoImplicit false

namespace TelemetryLog
namespace Json

variable {depth : Nat} {cs cs' : List Char} {v v' : Json} {m : Member}
  {members members' : List Member}

/-! ## Lasting members -/

/-- The members whose key does not occur again. -/
def lasting : List Member → List Member
  | [] => []
  | m :: more => if more.any (·.key == m.key) then lasting more else m :: lasting more

theorem mem_lasting :
    m ∈ lasting members ↔
      ∃ before after, members = before ++ m :: after ∧ ∀ m' ∈ after, m'.key ≠ m.key := by
  induction members with
  | nil => simp [lasting]
  | cons a more ih =>
    have hcons : (∃ before after, a :: more = before ++ m :: after ∧ ∀ m' ∈ after, m'.key ≠ m.key) ↔
        (m = a ∧ ∀ m' ∈ more, m'.key ≠ m.key) ∨ m ∈ lasting more := by
      rw [ih]
      constructor
      · rintro ⟨before, after, heq, hafter⟩
        cases before with
        | nil =>
          cases heq
          exact .inl ⟨rfl, hafter⟩
        | cons b before =>
          cases heq
          exact .inr ⟨before, after, rfl, hafter⟩
      · rintro (⟨rfl, hmore⟩ | ⟨before, after, rfl, hafter⟩)
        · exact ⟨[], more, rfl, hmore⟩
        · exact ⟨a :: before, after, rfl, hafter⟩
    rw [hcons, lasting]
    split
    · obtain ⟨m', hm', hkey⟩ := List.any_eq_true.1 ‹_›
      refine (or_iff_right ?_).symm
      rintro ⟨rfl, hmore⟩
      exact hmore m' hm' (beq_iff_eq.1 hkey)
    · rename_i hnone
      rw [List.mem_cons]
      refine or_congr_left ⟨?_, And.left⟩
      rintro rfl
      refine ⟨rfl, fun m' hm' hkey => hnone ?_⟩
      exact List.any_eq_true.2 ⟨m', hm', beq_iff_eq.2 hkey⟩

theorem mem_of_mem_lasting (h : m ∈ lasting members) : m ∈ members := by
  obtain ⟨before, after, rfl, -⟩ := mem_lasting.1 h
  simp

/-- Whether a member lasts is decided among the members with its key. -/
theorem mem_lasting_filter {p : String → Bool} :
    m ∈ lasting (members.filter fun m => p m.key) ↔ m ∈ lasting members ∧ p m.key = true := by
  induction members with
  | nil => simp [lasting]
  | cons a more ih =>
    by_cases ha : p a.key = true
    · have hany : ((more.filter fun m => p m.key).any fun m => m.key == a.key) =
          more.any fun m => m.key == a.key := by
        rw [List.any_filter]
        refine List.any_congr rfl fun x => ?_
        by_cases hx : x.key = a.key
        · simp [hx, ha]
        · simp [hx]
      have hfilter : (a :: more).filter (fun m => p m.key) =
          a :: more.filter fun m => p m.key := List.filter_cons_of_pos ha
      rw [hfilter, lasting, lasting, hany]
      split
      · exact ih
      · rw [List.mem_cons, List.mem_cons, ih, or_and_right]
        refine or_congr_left ⟨?_, And.left⟩
        rintro rfl
        exact ⟨rfl, ha⟩
    · have hfilter : (a :: more).filter (fun m => p m.key) = more.filter fun m => p m.key :=
        List.filter_cons_of_neg ha
      rw [hfilter, ih, lasting]
      split
      · rfl
      · rw [List.mem_cons, or_and_right]
        refine (or_iff_right ?_).symm
        rintro ⟨rfl, hm⟩
        exact ha hm

/-- What is left of the members are those that last. -/
theorem mem_collect_iff {entry : String × Json} :
    entry ∈ collect (members.map Member.entry) ↔ ∃ m ∈ lasting members, m.entry = entry := by
  rw [(keeps_collect _).mem]
  constructor
  · rintro ⟨before, after, heq, hafter⟩
    obtain ⟨front, back, rfl, rfl, hback⟩ := List.map_eq_append_iff.1 heq
    obtain ⟨m, back, rfl, rfl, rfl⟩ := List.map_eq_cons_iff.1 hback
    refine ⟨m, mem_lasting.2 ⟨front, back, rfl, fun m' hm' => ?_⟩, rfl⟩
    exact hafter _ (List.mem_map_of_mem hm')
  · rintro ⟨m, hm, rfl⟩
    obtain ⟨front, back, rfl, hback⟩ := mem_lasting.1 hm
    refine ⟨front.map Member.entry, back.map Member.entry, by simp, ?_⟩
    exact List.forall_mem_map.2 hback

/-! ## Likeness -/

/-- The two texts of values inside so many open containers differ in nothing that counts. -/
inductive Alike : Nat → List Char → List Char → Prop
  /-- They do not differ at all. -/
  | same {depth : Nat} {cs : List Char} : Alike depth cs cs
  /-- They are texts of the same characters, which may be spelled differently. -/
  | text {depth : Nat} {cs cs' xs : List Char} (h : BodyText cs xs) (h' : BodyText cs' xs) :
      Alike depth ('"' :: (cs ++ ['"'])) ('"' :: (cs' ++ ['"']))
  /-- They are arrays, each item is like the other one, and there may be other space around it. -/
  | array {depth : Nat} {cs cs' : List Char} {pairs : List (Item × Item)}
      (h : ItemsText (depth + 1) (pairs.map Prod.fst) cs)
      (h' : ItemsText (depth + 1) (pairs.map Prod.snd) cs')
      (halike : ∀ p ∈ pairs, Alike (depth + 1) p.1.text p.2.text) :
      Alike depth ('[' :: (cs ++ [']'])) ('[' :: (cs' ++ [']']))
  /-- They are objects, and the members whose key does not occur again are the same: in any order,
  with any spelling of the keys and any space, and with values that are alike. -/
  | object {depth : Nat} {cs cs' : List Char} {members members' : List Member}
      {pairs : List (Member × Member)} (h : MembersText (depth + 1) members cs)
      (h' : MembersText (depth + 1) members' cs')
      (hpairs : (pairs.map Prod.fst).Perm (lasting members))
      (hpairs' : (pairs.map Prod.snd).Perm (lasting members'))
      (hkeys : ∀ p ∈ pairs, p.1.key = p.2.key)
      (halike : ∀ p ∈ pairs, Alike (depth + 1) p.1.item.text p.2.item.text) :
      Alike depth ('\x7b' :: (cs ++ ['\x7d'])) ('\x7b' :: (cs' ++ ['\x7d']))

/-- Members that are paired have the same keys and values. -/
theorem exists_lasting_iff {pairs : List (Member × Member)}
    (hpairs : (pairs.map Prod.fst).Perm (lasting members))
    (hpairs' : (pairs.map Prod.snd).Perm (lasting members'))
    (hentry : ∀ p ∈ pairs, p.1.entry = p.2.entry) (entry : String × Json) :
    (∃ m ∈ lasting members, m.entry = entry) ↔ ∃ m ∈ lasting members', m.entry = entry := by
  simp only [← hpairs.mem_iff, ← hpairs'.mem_iff]
  constructor
  · rintro ⟨m, hm, rfl⟩
    obtain ⟨p, hp, rfl⟩ := List.mem_map.1 hm
    exact ⟨p.2, List.mem_map_of_mem hp, (hentry p hp).symm⟩
  · rintro ⟨m, hm, rfl⟩
    obtain ⟨p, hp, rfl⟩ := List.mem_map.1 hm
    exact ⟨p.1, List.mem_map_of_mem hp, hentry p hp⟩

/-- The order in which members were sent does not matter, if they stand for something at all. -/
theorem Stands.eq_of_collect_eq {sent sent' : List (String × Json)} (h : Stands sent v)
    (h' : Stands sent' v') (heq : collect sent = collect sent') : v = v' := by
  cases h with
  | object hfirst hkept =>
    cases h' with
    | object _ hkept' => rw [keeps_iff.1 hkept, keeps_iff.1 hkept', heq]
    | number => exact absurd heq ((keeps_collect _).ne_singleton hfirst)
  | number h =>
    cases h' with
    | object hfirst' => exact absurd heq.symm ((keeps_collect _).ne_singleton hfirst')
    | number h' =>
      cases heq
      rw [← Number.ofLiteral?_eq_some_iff] at h h'
      rw [h] at h'
      cases h'
      rfl

/-- **Texts that are alike are texts of one value.** -/
theorem Alike.value_eq (h : Alike depth cs cs') (hpos : 0 < depth) (hv : ValueText depth cs v)
    (hv' : ValueText depth cs' v') : v = v' := by
  induction h generalizing v v' with
  | @same depth =>
    obtain ⟨depth, rfl⟩ := Nat.exists_eq_succ_of_ne_zero (Nat.ne_of_gt hpos)
    exact valueText_unique hv hv'
  | @text depth cs cs' xs h h' =>
    obtain ⟨depth, rfl⟩ := Nat.exists_eq_succ_of_ne_zero (Nat.ne_of_gt hpos)
    rw [← String.toList_ofList (l := xs)] at h h'
    rw [valueText_unique hv (.text h), valueText_unique hv' (.text h')]
  | @array depth _ _ pairs h h' _ ih =>
    obtain ⟨depth, rfl⟩ := Nat.exists_eq_succ_of_ne_zero (Nat.ne_of_gt hpos)
    rw [h.eq_array hv, h'.eq_array hv', List.map_map, List.map_map]
    refine congrArg Json.array (List.map_congr_left fun p hp => ?_)
    exact ih p hp (Nat.succ_pos _) (h.values _ (List.mem_map_of_mem hp))
      (h'.values _ (List.mem_map_of_mem hp))
  | @object depth _ _ members members' pairs h h' hpairs hpairs' hkeys _ ih =>
    obtain ⟨depth, rfl⟩ := Nat.exists_eq_succ_of_ne_zero (Nat.ne_of_gt hpos)
    have hentry : ∀ p ∈ pairs, p.1.entry = p.2.entry := by
      intro p hp
      have hmem := mem_of_mem_lasting (hpairs.mem_iff.1 (List.mem_map_of_mem hp))
      have hmem' := mem_of_mem_lasting (hpairs'.mem_iff.1 (List.mem_map_of_mem hp))
      exact Prod.ext (hkeys p hp)
        (ih p hp (Nat.succ_pos _) (h.values _ hmem) (h'.values _ hmem'))
    -- what is left of the members are those that last, and they are the same
    refine (h.stands hv).eq_of_collect_eq (h'.stands hv') ?_
    refine eq_of_sorted (keeps_collect _).sorted (keeps_collect _).sorted fun entry => ?_
    rw [mem_collect_iff, mem_collect_iff]
    exact exists_lasting_iff hpairs hpairs' hentry entry

end Json
end TelemetryLog
