import TelemetryLog.Proofs.Json.Scalars

/-!
# Members by key

`insert` puts a member into a list whose keys ascend, and takes the place of one with the same key
(`mem_insert`, `sorted_insert`).  So of all the members that were sent the last of each key is left
(`keeps_iff`), and an inner object is what the grammar says (`stands_of_nested?`,
`nested?_of_stands`).

The grammar says which members stay without saying how: the keys ascend, and a member is there just
if it was sent and none with its key was sent after it (`Keeps`).  Two lists of which this is true
have the same members, and lists whose keys ascend are then equal (`eq_of_sorted`), so the relation
determines the list.

An inner object whose first member has the key for numbers is the number that the member spells, and
is refused if it has another member or spells none.  This is decided by the member that was sent
first, and a key that occurs twice counts as two members here, although only one of them would stay.
An object that was kept as an object never consists of that key alone (`Keeps.ne_singleton`).
-/

set_option autoImplicit false

namespace TelemetryLog
namespace Json

variable {sent kept members : List (String × Json)} {m : String × Json} {key : String}
  {value : Json}

/-! ## One member -/

theorem lt_of_not_lt_of_ne {a b : String} (hlt : ¬a < b) (hne : a ≠ b) : b < a := by
  by_cases h : b < a
  · exact h
  · exact absurd (String.le_antisymm (String.not_lt.1 h) (String.not_lt.1 hlt)) hne

theorem mem_insert (h : kept.Pairwise fun a b => a.1 < b.1) :
    m ∈ insert key value kept ↔ m = (key, value) ∨ m ∈ kept ∧ m.1 ≠ key := by
  induction kept with
  | nil => simp [insert]
  | cons a kept ih =>
    obtain ⟨hfirst, hrest⟩ := List.pairwise_cons.1 h
    rw [insert]
    split
    · rename_i hlt
      -- the keys ascend, so none of those behind a greater one is this key
      have hne : ∀ b ∈ a :: kept, b.1 ≠ key := by
        intro b hb heq
        rcases List.mem_cons.1 hb with rfl | hb
        · exact String.lt_irrefl _ (heq ▸ hlt)
        · exact String.lt_irrefl _ (heq ▸ String.lt_trans hlt (hfirst b hb))
      rw [List.mem_cons]
      exact or_congr_right ⟨fun hm => ⟨hm, hne m hm⟩, And.left⟩
    split
    · rename_i heq
      have hne : ∀ b ∈ kept, b.1 ≠ key := by
        intro b hb heq'
        exact String.lt_irrefl key (by simpa [heq', ← heq] using hfirst b hb)
      rw [List.mem_cons]
      refine or_congr_right ⟨fun hm => ⟨List.mem_cons_of_mem a hm, hne m hm⟩, ?_⟩
      rintro ⟨hm, hkey⟩
      rcases List.mem_cons.1 hm with rfl | hm
      · exact absurd heq.symm hkey
      · exact hm
    · rename_i hne
      have ha : m = a → m.1 ≠ key := by
        rintro rfl heq
        exact hne heq.symm
      rw [List.mem_cons, ih hrest, List.mem_cons]
      constructor
      · rintro (hm | hm | ⟨hm, hkey⟩)
        · exact .inr ⟨.inl hm, ha hm⟩
        · exact .inl hm
        · exact .inr ⟨.inr hm, hkey⟩
      · rintro (hm | ⟨hm | hm, hkey⟩)
        · exact .inr (.inl hm)
        · exact .inl hm
        · exact .inr (.inr ⟨hm, hkey⟩)

theorem sorted_insert (h : kept.Pairwise fun a b => a.1 < b.1) :
    (insert key value kept).Pairwise fun a b => a.1 < b.1 := by
  induction kept with
  | nil => exact List.pairwise_singleton _ _
  | cons a kept ih =>
    obtain ⟨hfirst, hrest⟩ := List.pairwise_cons.1 h
    rw [insert]
    split
    · rename_i hlt
      refine List.pairwise_cons.2 ⟨?_, h⟩
      intro b hb
      rcases List.mem_cons.1 hb with rfl | hb
      · exact hlt
      · exact String.lt_trans hlt (hfirst b hb)
    split
    · rename_i heq
      exact List.pairwise_cons.2 ⟨fun b hb => heq ▸ hfirst b hb, hrest⟩
    · rename_i hlt hne
      refine List.pairwise_cons.2 ⟨?_, ih hrest⟩
      intro b hb
      rcases (mem_insert hrest).1 hb with rfl | ⟨hb, -⟩
      · exact lt_of_not_lt_of_ne hlt hne
      · exact hfirst b hb

/-! ## All members -/

/-- The next member that is sent stays, and of those before it the ones with another key. -/
theorem Keeps.insert (h : Keeps sent kept) : Keeps (sent ++ [m]) (Json.insert m.1 m.2 kept) := by
  refine ⟨sorted_insert h.sorted, fun x => ?_⟩
  rw [mem_insert h.sorted, h.mem]
  constructor
  · rintro (rfl | ⟨⟨before, after, rfl, hlast⟩, hne⟩)
    · exact ⟨sent, [], rfl, by simp⟩
    · refine ⟨before, after ++ [m], by simp, ?_⟩
      intro y hy
      rcases List.mem_append.1 hy with hy | hy
      · exact hlast y hy
      · rw [List.mem_singleton.1 hy]
        exact hne.symm
  · rintro ⟨before, after, heq, hlast⟩
    rcases List.eq_nil_or_concat after with rfl | ⟨after, y, rfl⟩
    · obtain ⟨rfl, hm⟩ := List.append_inj' heq rfl
      exact .inl (List.singleton_inj.1 hm).symm
    · rw [List.concat_eq_append] at heq hlast
      rw [← List.cons_append, ← List.append_assoc] at heq
      obtain ⟨rfl, hm⟩ := List.append_inj' heq rfl
      obtain rfl := List.singleton_inj.1 hm
      refine .inr ⟨⟨before, after, rfl, fun z hz => hlast z (List.mem_append_left _ hz)⟩, ?_⟩
      exact (hlast m (List.mem_append_right _ List.mem_cons_self)).symm

theorem Keeps.foldl (h : Keeps sent kept) (more : List (String × Json)) :
    Keeps (sent ++ more) (more.foldl (fun sorted m => Json.insert m.1 m.2 sorted) kept) := by
  induction more generalizing sent kept with
  | nil => rwa [List.append_nil]
  | cons m more ih =>
    rw [← List.singleton_append, ← List.append_assoc]
    exact ih h.insert

theorem keeps_collect (sent : List (String × Json)) : Keeps sent (collect sent) := by
  have hnil : Keeps [] [] := ⟨List.Pairwise.nil, by simp⟩
  exact hnil.foldl sent

theorem eq_of_sorted {as bs : List (String × Json)} (has : as.Pairwise fun a b => a.1 < b.1)
    (hbs : bs.Pairwise fun a b => a.1 < b.1) (hmem : ∀ m, m ∈ as ↔ m ∈ bs) : as = bs := by
  have hne {a b : String × Json} (h : a.1 < b.1) : a ≠ b := by
    rintro rfl
    exact String.lt_irrefl _ h
  have hperm : as.Perm bs :=
    (List.perm_ext_iff_of_nodup (has.imp hne) (hbs.imp hne)).2 hmem
  exact hperm.eq_of_pairwise (fun a b _ _ hab hba => absurd hba (String.lt_asymm hab)) has hbs

/-- **The last of each key is left**, and nothing else. -/
theorem keeps_iff : Keeps sent kept ↔ kept = collect sent := by
  constructor
  · intro h
    have hsent := keeps_collect sent
    exact eq_of_sorted h.sorted hsent.sorted fun m => (h.mem m).trans (hsent.mem m).symm
  · rintro rfl
    exact keeps_collect sent

/-! ## What is left -/

theorem Keeps.mem_sent (h : Keeps sent kept) (hm : m ∈ kept) : m ∈ sent := by
  obtain ⟨before, after, rfl, -⟩ := (h.mem m).1 hm
  simp

/-- No key is lost. -/
theorem Keeps.exists_key (h : Keeps sent kept) (hm : m ∈ sent) : ∃ m' ∈ kept, m'.1 = m.1 := by
  -- the last member with this key stays
  have hsome : (sent.reverse.find? fun x => x.1 == m.1).isSome = true := by
    rw [List.find?_isSome]
    exact ⟨m, List.mem_reverse.2 hm, beq_self_eq_true _⟩
  obtain ⟨x, hx⟩ := Option.isSome_iff_exists.1 hsome
  obtain ⟨hkey, after, before, heq, hafter⟩ := List.find?_eq_some_iff_append.1 hx
  have hkey : x.1 = m.1 := beq_iff_eq.1 hkey
  refine ⟨x, (h.mem x).2 ⟨before.reverse, after.reverse, ?_, ?_⟩, hkey⟩
  · have hsent := congrArg List.reverse heq
    rw [List.reverse_reverse] at hsent
    rw [hsent]
    simp
  · intro y hy
    have hne := hafter y (List.mem_reverse.1 hy)
    rw [hkey]
    simpa using hne

/-- Members with ascending keys all stay. -/
theorem keeps_self (h : members.Pairwise fun a b => a.1 < b.1) : Keeps members members := by
  refine ⟨h, fun m => ⟨fun hm => ?_, ?_⟩⟩
  · obtain ⟨before, after, rfl⟩ := List.append_of_mem hm
    have hafter := (List.pairwise_cons.1 (List.pairwise_append.1 h).2.1).1
    refine ⟨before, after, rfl, fun m' hm' heq => ?_⟩
    exact String.lt_irrefl m.1 (by simpa [heq] using hafter m' hm')
  · rintro ⟨before, after, rfl, -⟩
    simp

/-- If a key is the only one that stays, it is the first that was sent. -/
theorem Keeps.ne_singleton (h : Keeps sent kept) (hfirst : ∀ m ∈ sent.head?, m.1 ≠ key) :
    kept ≠ [(key, value)] := by
  rintro rfl
  have hsent : (key, value) ∈ sent := h.mem_sent List.mem_cons_self
  obtain ⟨m, more, rfl⟩ := List.exists_cons_of_ne_nil (List.ne_nil_of_mem hsent)
  obtain ⟨m', hm', hkey⟩ := h.exists_key (m := m) List.mem_cons_self
  rw [List.mem_singleton.1 hm'] at hkey
  exact hfirst m rfl hkey.symm

/-- Where the keys ascend, a key is found if it is there. -/
theorem find?_eq_some_iff (h : members.Pairwise fun a b => a.1 < b.1) :
    find? key members = some value ↔ (key, value) ∈ members := by
  induction members with
  | nil => simp [find?]
  | cons a members ih =>
    obtain ⟨hfirst, hrest⟩ := List.pairwise_cons.1 h
    obtain ⟨k, v⟩ := a
    rw [find?, List.find?_cons, List.mem_cons, Prod.mk.injEq]
    by_cases hkey : k = key
    · have hnot : (key, value) ∉ members := by
        intro hm
        exact String.lt_irrefl key (by simpa [hkey] using hfirst _ hm)
      simp [hkey, hnot, eq_comm]
    · have hbeq : (k == key) = false := beq_eq_false_iff_ne.2 hkey
      simp [hbeq, Ne.symm hkey, ← ih hrest, find?]

/-! ## Inner objects -/

theorem nested?_of_ne {more : List (String × Json)} (h : m.1 ≠ numberKey) :
    nested? (m :: more) = some (.object (collect (m :: more))) := by
  unfold nested?
  exact if_neg h

theorem stands_of_nested? {v : Json} (h : nested? sent = some v) : Stands sent v := by
  cases sent with
  | nil =>
    cases h
    exact .object (by simp) (keeps_collect [])
  | cons m more =>
    by_cases hkey : m.1 = numberKey
    · obtain ⟨key, value⟩ := m
      obtain rfl := hkey
      unfold nested? at h
      dsimp only at h
      rw [if_pos rfl] at h
      split at h
      · obtain ⟨n, hn, rfl⟩ := Option.map_eq_some_iff.1 h
        exact .number (Number.ofLiteral?_eq_some_iff.1 hn)
      · cases h
    · rw [nested?_of_ne hkey] at h
      cases h
      refine .object (fun x hx => ?_) (keeps_collect _)
      cases hx
      exact hkey

theorem nested?_of_stands {v : Json} (h : Stands sent v) : nested? sent = some v := by
  cases h with
  | object hfirst hkept =>
    rw [keeps_iff.1 hkept]
    cases sent with
    | nil => rfl
    | cons m more => exact nested?_of_ne (hfirst m rfl)
  | number h =>
    have hread := Number.ofLiteral?_eq_some_iff.2 h
    unfold nested?
    dsimp only
    rw [if_pos (by rfl), hread]
    rfl

end Json
end TelemetryLog
