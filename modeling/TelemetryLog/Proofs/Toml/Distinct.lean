import Mathlib.Data.List.Nodup
import TelemetryLog.Toml.Document

/-!
# No key is given twice

A document whose text can be read gives no key twice in one table, at whatever depth the table is
and however it came about: between braces, by dotted keys, or by headers.

## What is here

* `Value.Distinct`, `Distinct` — no name is that of two members of one table.
* `Distinct.assign`, `Distinct.headTable`, `Distinct.headArray` — every way in which a document
  grows keeps its names distinct; all of them go through `descend`, so `Distinct.descend` carries
  them.
* `distinct_of_parse?` — a document that was read has distinct names, and so looking a key up finds
  the only member of that name (`Distinct.find?_eq_some_iff`).

## Why it is needed

Members are kept in a list, in the order in which they came about, and that order matters: it
decides which of two mistakes in a document is reported.  A list by itself could hold a key twice,
and looking a key up would find the first of them while going through the list would meet both.
That the two agree is the use that is made of this in `Proofs.Settings.Known`.

The one place where a member moves is a header for a table that was only implied before.  The table
is taken out and put at the end, with its new members (`Distinct.erase`).  The readers of arrays and
of tables between braces take the reader of what is inside as a parameter, and what is said of them
is said for any such reader that gives values with distinct names (`ReadsDistinct`).
-/

set_option autoImplicit false

namespace TelemetryLog
namespace Toml

/-- The names of members, in their order. -/
def names (ms : List Member) : List String := ms.map (·.1.name)

/-- No table in a value has two members of one name. -/
inductive Value.Distinct : Value → Prop
  | text (s : String) : Distinct (.text s)
  | integer (n : Int) : Distinct (.integer n)
  | float (x : Binary64) : Distinct (.float x)
  | boolean (b : Bool) : Distinct (.boolean b)
  | moment (s : String) : Distinct (.moment s)
  | array {growing : Bool} {elements : List Entry} (h : ∀ e ∈ elements, Distinct e.2) :
      Distinct (.array growing elements)
  | table {kind : TableKind} {members : List Member} (hnames : (names members).Nodup)
      (h : ∀ m ∈ members, Distinct m.2.2) : Distinct (.table kind members)

/-- No name is that of two members, nor of two members of a table among their values. -/
structure Distinct (ms : List Member) : Prop where
  /-- The names of the members themselves. -/
  nodup : (names ms).Nodup
  /-- The names inside their values. -/
  values : ∀ m ∈ ms, m.2.2.Distinct

/-- Pairs with values in which names are distinct. -/
def DistinctPairs (ps : List (KeyPath × Entry)) : Prop := ∀ p ∈ ps, p.2.2.Distinct

theorem Value.distinct_table_iff {kind : TableKind} {ms : List Member} :
    (Value.table kind ms).Distinct ↔ Toml.Distinct ms := by
  constructor
  · rintro ⟨⟩
    exact ⟨by assumption, by assumption⟩
  · exact fun h => .table h.nodup h.values

theorem Value.distinct_array_iff {growing : Bool} {es : List Entry} :
    (Value.array growing es).Distinct ↔ ∀ e ∈ es, e.2.Distinct := by
  constructor
  · rintro ⟨⟩
    assumption
  · exact .array

/-! ## Members by name -/

theorem find?_eq_none_iff {name : String} {ms : List Member} :
    find? name ms = none ↔ name ∉ names ms := by
  induction ms with
  | nil => simp [find?, names]
  | cons m ms ih =>
    obtain ⟨k, e⟩ := m
    by_cases hk : k.name = name
    · simp [find?, names, hk]
    · have hne : name ≠ k.name := fun h => hk h.symm
      simpa [find?, names, hk, hne] using ih

theorem exists_mem_of_find? {name : String} {ms : List Member} {e : Entry}
    (h : find? name ms = some e) : ∃ k, k.name = name ∧ (k, e) ∈ ms := by
  induction ms with
  | nil => cases h
  | cons m ms ih =>
    obtain ⟨k, old⟩ := m
    rw [find?] at h
    split at h
    · rename_i hk
      cases h
      exact ⟨k, hk, List.mem_cons_self⟩
    · obtain ⟨k', hk', hmem⟩ := ih h
      exact ⟨k', hk', List.mem_cons_of_mem _ hmem⟩

theorem names_replace (name : String) (e : Entry) (ms : List Member) :
    names (replace name e ms) = names ms := by
  induction ms with
  | nil => rfl
  | cons m ms ih =>
    rw [replace]
    split
    · rfl
    · exact congrArg (m.1.name :: ·) ih

theorem mem_replace {name : String} {e : Entry} {ms : List Member} {m : Member}
    (h : m ∈ replace name e ms) : m.2 = e ∨ m ∈ ms := by
  induction ms with
  | nil => cases h
  | cons old ms ih =>
    rw [replace] at h
    split at h
    · rcases List.mem_cons.1 h with rfl | h
      · exact .inl rfl
      · exact .inr (List.mem_cons_of_mem _ h)
    · rcases List.mem_cons.1 h with rfl | h
      · exact .inr List.mem_cons_self
      · exact (ih h).imp_right (List.mem_cons_of_mem _)

namespace Distinct

variable {ms ms' : List Member}

theorem nil : Distinct [] := ⟨List.nodup_nil, fun _ h => absurd h List.not_mem_nil⟩

theorem of_find? (h : Distinct ms) {name : String} {e : Entry} (he : find? name ms = some e) :
    e.2.Distinct := by
  obtain ⟨k, -, hmem⟩ := exists_mem_of_find? he
  exact h.values _ hmem

/-- Looking a name up finds the only member of that name. -/
theorem find?_eq_some_iff (h : Distinct ms) {name : String} {e : Entry} :
    find? name ms = some e ↔ ∃ k, k.name = name ∧ (k, e) ∈ ms := by
  refine ⟨exists_mem_of_find?, ?_⟩
  rintro ⟨k, rfl, hmem⟩
  cases hfound : find? k.name ms with
  | none => exact absurd (List.mem_map_of_mem hmem) (find?_eq_none_iff.1 hfound)
  | some e' =>
    obtain ⟨k', hname, hmem'⟩ := exists_mem_of_find? hfound
    have heq := List.inj_on_of_nodup_map h.nodup hmem' hmem hname
    rw [Prod.mk.injEq] at heq
    rw [heq.2]

/-! ## Small changes -/

theorem append (h : Distinct ms) {k : Key} {e : Entry} (hk : k.name ∉ names ms)
    (he : e.2.Distinct) : Distinct (ms ++ [(k, e)]) := by
  refine ⟨?_, fun m hm => ?_⟩
  · rw [names, List.map_append]
    refine List.nodup_append.2 ⟨h.nodup, List.nodup_singleton _, ?_⟩
    intro name hname last hlast heq
    rw [heq, List.mem_singleton.1 hlast] at hname
    exact hk hname
  · rcases List.mem_append.1 hm with hm | hm
    · exact h.values m hm
    · rw [List.mem_singleton.1 hm]
      exact he

theorem replace (h : Distinct ms) {e : Entry} (he : e.2.Distinct) (name : String) :
    Distinct (Toml.replace name e ms) := by
  refine ⟨names_replace name e ms ▸ h.nodup, fun m hm => ?_⟩
  rcases mem_replace hm with heq | hm
  · rwa [heq]
  · exact h.values m hm

theorem erase (h : Distinct ms) (name : String) :
    Distinct (Toml.erase name ms) ∧ name ∉ names (Toml.erase name ms) := by
  refine ⟨⟨?_, fun m hm => h.values m (List.mem_filter.1 hm).1⟩, ?_⟩
  · exact h.nodup.sublist (List.filter_sublist.map _)
  · simp [names, Toml.erase]

theorem addNew (h : Distinct ms) {k : Key} {e : Entry} (he : e.2.Distinct)
    (hms' : Toml.addNew k e ms = some ms') : Distinct ms' := by
  rw [Toml.addNew] at hms'
  split at hms'
  · cases hms'
  · rename_i hnone
    cases hms'
    exact h.append (find?_eq_none_iff.1 hnone) he

/-! ## Growing tables

A table grows at the end of a path.  On the way the tables that are there are put back under the
names they had, and one that is missing is added under a name that was looked for and not found.  So
only the change at the end needs a hypothesis. -/

/-- A change that keeps names distinct keeps them distinct wherever a path leads. -/
theorem descend {dotted : Bool} {change : Change}
    (hchange : ∀ kind ms ms', Distinct ms → change kind ms = some ms' → Distinct ms')
    {path : List Key} {kind : TableKind} (h : Distinct ms)
    (hms' : Toml.descend dotted change path kind ms = some ms') : Distinct ms' := by
  induction path generalizing kind ms ms' with
  | nil => exact hchange kind ms ms' h hms'
  | cons k ks ih =>
    rw [Toml.descend] at hms'
    split at hms'
    · rename_i hnone
      obtain ⟨inner, hinner, rfl⟩ := Option.map_eq_some_iff.1 hms'
      exact h.append (find?_eq_none_iff.1 hnone) (Value.distinct_table_iff.2 (ih nil hinner))
    · rename_i hfound
      split at hms'
      · cases hms'
      · obtain ⟨inner', hinner', rfl⟩ := Option.map_eq_some_iff.1 hms'
        have hinner := Value.distinct_table_iff.1 (h.of_find? hfound)
        exact h.replace (Value.distinct_table_iff.2 (ih hinner hinner')) _
    · rename_i hfound
      split at hms'
      · rename_i hlast
        -- an array of tables grows in its last table
        obtain ⟨inner', hinner', rfl⟩ := Option.map_eq_some_iff.1 hms'
        have helements := Value.distinct_array_iff.1 (h.of_find? hfound)
        have hinner := Value.distinct_table_iff.1 (helements _ (List.mem_of_getLast? hlast))
        refine h.replace (Value.distinct_array_iff.2 fun e he => ?_) _
        rcases List.mem_append.1 he with he | he
        · exact helements e (List.dropLast_subset _ he)
        · rw [List.mem_singleton.1 he]
          exact Value.distinct_table_iff.2 (ih hinner hinner')
      · cases hms'
    · cases hms'

theorem assign (h : Distinct ms) {path : KeyPath} {e : Entry} (he : e.2.Distinct)
    (hms' : Toml.assign path e ms = some ms') : Distinct ms' := by
  refine h.descend (fun kind ms ms' h hms' => ?_) hms'
  split at hms'
  · cases hms'
  · exact h.addNew he hms'

theorem assignAll {ps : List (KeyPath × Entry)} (hps : DistinctPairs ps) (h : Distinct ms)
    (hms' : Toml.assignAll ps ms = some ms') : Distinct ms' := by
  induction ps generalizing ms with
  | nil =>
    cases hms'
    exact h
  | cons p ps ih =>
    rw [Toml.assignAll] at hms'
    split at hms'
    · cases hms'
    · rename_i hone
      exact ih (fun p hp => hps p (List.mem_cons_of_mem _ hp))
        (h.assign (hps _ List.mem_cons_self) hone) hms'

theorem headTable {ps : List (KeyPath × Entry)} (hps : DistinctPairs ps) (h : Distinct ms)
    {path : KeyPath} {header : Span} (hms' : Toml.headTable path header ps ms = some ms') :
    Distinct ms' := by
  refine h.descend (fun kind ms ms' h hms' => ?_) hms'
  have hadd {start : List Member} (hstart : Distinct start)
      (hms' : ((Toml.assignAll ps start).map fun inner =>
        Toml.erase path.last.name ms ++
          [(path.last, sectionSpan header ps, .table .headed inner)]) = some ms') :
      Distinct ms' := by
    obtain ⟨inner, hinner, rfl⟩ := Option.map_eq_some_iff.1 hms'
    obtain ⟨herase, hnew⟩ := h.erase path.last.name
    exact herase.append hnew (Value.distinct_table_iff.2 (assignAll hps hstart hinner))
  split at hms'
  · exact hadd nil hms'
  · rename_i hfound
    exact hadd (Value.distinct_table_iff.1 (h.of_find? hfound)) hms'
  · cases hms'

theorem headArray {ps : List (KeyPath × Entry)} (hps : DistinctPairs ps) (h : Distinct ms)
    {path : KeyPath} {header : Span} (hms' : Toml.headArray path header ps ms = some ms') :
    Distinct ms' := by
  refine h.descend (fun kind ms ms' h hms' => ?_) hms'
  obtain ⟨inner, hinner, hms'⟩ := Option.bind_eq_some_iff.1 hms'
  have hnew : (Value.table .headed inner).Distinct :=
    Value.distinct_table_iff.2 (assignAll hps nil hinner)
  split at hms'
  · rename_i hnone
    cases hms'
    refine h.append (find?_eq_none_iff.1 hnone) (Value.distinct_array_iff.2 fun e he => ?_)
    rw [List.mem_singleton.1 he]
    exact hnew
  · rename_i hfound
    cases hms'
    refine h.replace (Value.distinct_array_iff.2 fun e he => ?_) _
    rcases List.mem_append.1 he with he | he
    · exact Value.distinct_array_iff.1 (h.of_find? hfound) e he
    · rw [List.mem_singleton.1 he]
      exact hnew
  · cases hms'

end Distinct

/-! ## Values as they are written

An array and a table between braces hold values of the same kind, one level further in.  The reader
of one level is made from that of the level below, and so is the proof. -/

/-- A reader of values whose names are distinct. -/
def ReadsDistinct (read : ValueReader) : Prop :=
  ∀ cs e rest, read cs = some (e, rest) → e.2.Distinct

theorem distinct_of_scalar? {cs : List Char} {v : Value} (h : scalar? cs = some v) :
    v.Distinct := by
  rw [scalar?] at h
  split at h
  · cases h
    exact .boolean _
  · split at h
    · cases h
      exact .boolean _
    · split at h
      · cases h
        exact .moment _
      · split at h
        · cases h
          exact .integer _
        · obtain ⟨x, -, rfl⟩ := Option.map_eq_some_iff.1 h
          exact .float x

theorem distinct_of_readSimple? {cs : List Char} {e : Entry} {rest : List Char}
    (h : ((readSimple? cs).map fun (v, rest) => located cs v rest) = some (e, rest)) :
    e.2.Distinct := by
  obtain ⟨⟨v, rest⟩, hv, heq⟩ := Option.map_eq_some_iff.1 h
  cases heq
  show v.Distinct
  rw [readSimple?.eq_def] at hv
  split at hv
  · obtain ⟨⟨s, rest⟩, -, heq⟩ := Option.map_eq_some_iff.1 hv
    cases heq
    exact .text s
  · obtain ⟨⟨s, rest⟩, -, heq⟩ := Option.map_eq_some_iff.1 hv
    cases heq
    exact .text s
  · obtain ⟨v, hscalar, heq⟩ := Option.map_eq_some_iff.1 hv
    cases heq
    exact distinct_of_scalar? hscalar

namespace ReadsDistinct

variable {read : ValueReader}

theorem readElements? (hread : ReadsDistinct read) {fuel : Nat} {es es' : List Entry}
    {cs rest : List Char} (hes : ∀ e ∈ es, e.2.Distinct)
    (h : Toml.readElements? read fuel es cs = some (es', rest)) : ∀ e ∈ es', e.2.Distinct := by
  induction fuel generalizing es cs with
  | zero => cases h
  | succ fuel ih =>
    rw [Toml.readElements?] at h
    split at h
    · cases h
    · cases h
      exact fun e he => hes e (List.mem_reverse.1 he)
    · split at h
      · cases h
      · rename_i e _ hone
        have hmore : ∀ e' ∈ e :: es, e'.2.Distinct := by
          intro e' he'
          rcases List.mem_cons.1 he' with rfl | he'
          · exact hread _ _ _ hone
          · exact hes e' he'
        split at h
        · cases h
          exact fun e' he' => hmore e' (List.mem_reverse.1 he')
        · exact ih hmore h
        · cases h

theorem readPair? (hread : ReadsDistinct read) {cs rest : List Char} {p : KeyPath × Entry}
    (h : Toml.readPair? read cs = some (p, rest)) : p.2.2.Distinct := by
  rw [Toml.readPair?] at h
  split at h
  · obtain ⟨⟨e, rest⟩, hone, heq⟩ := Option.map_eq_some_iff.1 h
    cases heq
    exact hread _ _ _ hone
  · cases h

theorem readPairs? (hread : ReadsDistinct read) {fuel : Nat} {ps ps' : List (KeyPath × Entry)}
    {cs rest : List Char} (hps : DistinctPairs ps)
    (h : Toml.readPairs? read fuel ps cs = some (ps', rest)) : DistinctPairs ps' := by
  induction fuel generalizing ps cs with
  | zero => cases h
  | succ fuel ih =>
    rw [Toml.readPairs?] at h
    split at h
    · cases h
    · rename_i p _ hone
      have hmore : DistinctPairs (p :: ps) := by
        intro p' hp'
        rcases List.mem_cons.1 hp' with rfl | hp'
        · exact hread.readPair? hone
        · exact hps p' hp'
      split at h
      · cases h
        exact fun p' hp' => hmore p' (List.mem_reverse.1 hp')
      · exact ih hmore h
      · cases h

theorem readInline? (hread : ReadsDistinct read) {cs rest : List Char} {ms : List Member}
    (h : Toml.readInline? read cs = some (ms, rest)) : Distinct ms := by
  rw [Toml.readInline?] at h
  split at h
  · cases h
    exact .nil
  · obtain ⟨⟨ps, rest⟩, hps, h⟩ := Option.bind_eq_some_iff.1 h
    obtain ⟨ms, hms, heq⟩ := Option.map_eq_some_iff.1 h
    cases heq
    exact .assignAll (hread.readPairs? (fun _ hp => absurd hp List.not_mem_nil) hps) .nil hms

end ReadsDistinct

theorem readsDistinct_readValue? (levels : Nat) : ReadsDistinct (readValue? levels) := by
  induction levels with
  | zero =>
    intro cs e rest h
    rw [readValue?.eq_def] at h
    split at h
    · cases h
    · cases h
    · rename_i heq
      cases heq
    · rename_i heq
      cases heq
    · exact distinct_of_readSimple? h
  | succ levels ih =>
    intro cs e rest h
    rw [readValue?.eq_def] at h
    split at h
    · rename_i heq
      cases heq
    · rename_i heq
      cases heq
    · rename_i heq
      cases heq
      obtain ⟨⟨es, rest⟩, hes, heq⟩ := Option.map_eq_some_iff.1 h
      cases heq
      exact .array (ih.readElements? (fun _ he => absurd he List.not_mem_nil) hes)
    · rename_i heq
      cases heq
      obtain ⟨⟨ms, rest⟩, hms, heq⟩ := Option.map_eq_some_iff.1 h
      cases heq
      exact Value.distinct_table_iff.2 (ih.readInline? hms)
    · exact distinct_of_readSimple? h

/-! ## Documents -/

/-- Sections whose pairs have values with distinct names. -/
structure Sections.Distinct (s : Sections) : Prop where
  /-- The finished sections. -/
  done : ∀ t ∈ s.done, DistinctPairs t.pairs
  /-- The section in progress. -/
  pairs : DistinctPairs s.pairs

theorem Sections.Distinct.close {s : Sections} (h : s.Distinct) :
    ∀ t ∈ s.close, DistinctPairs t.pairs := by
  intro t ht
  rcases List.mem_cons.1 ht with rfl | ht
  · exact fun p hp => h.pairs p (List.mem_reverse.1 hp)
  · exact h.done t ht

theorem distinct_of_readLines? {fuel : Nat} {s : Sections} {cs : List Char} {ts : List Section}
    (hs : s.Distinct) (h : readLines? fuel s cs = some ts) :
    ∀ t ∈ ts, DistinctPairs t.pairs := by
  induction fuel generalizing s cs with
  | zero => cases h
  | succ fuel ih =>
    rw [readLines?] at h
    split at h
    · cases h
      exact fun t ht => hs.close t (List.mem_reverse.1 ht)
    · split at h
      · obtain ⟨rest, -, h⟩ := Option.bind_eq_some_iff.1 h
        exact ih hs h
      · split at h
        · obtain ⟨⟨header, rest⟩, -, h⟩ := Option.bind_eq_some_iff.1 h
          obtain ⟨rest, -, h⟩ := Option.bind_eq_some_iff.1 h
          exact ih ⟨hs.close, fun _ hp => absurd hp List.not_mem_nil⟩ h
        · obtain ⟨⟨p, rest⟩, hp, h⟩ := Option.bind_eq_some_iff.1 h
          obtain ⟨rest, -, h⟩ := Option.bind_eq_some_iff.1 h
          refine ih (s := s.addPair p) ⟨hs.done, fun p' hp' => ?_⟩ h
          rcases List.mem_cons.1 hp' with rfl | hp'
          · exact (readsDistinct_readValue? maxDepth).readPair? hp
          · exact hs.pairs p' hp'

theorem Distinct.addSection {root root' : List Member} (h : Distinct root) {t : Section}
    (ht : DistinctPairs t.pairs) (hroot' : Toml.addSection root t = some root') :
    Distinct root' := by
  rw [Toml.addSection] at hroot'
  split at hroot'
  · exact .assignAll ht h hroot'
  · split at hroot'
    · exact .headArray ht h hroot'
    · exact .headTable ht h hroot'

theorem Distinct.addSections {ts : List Section} (hts : ∀ t ∈ ts, DistinctPairs t.pairs)
    {root root' : List Member} (h : Distinct root)
    (hroot' : Toml.addSections ts root = some root') : Distinct root' := by
  induction ts generalizing root with
  | nil =>
    cases hroot'
    exact h
  | cons t ts ih =>
    rw [Toml.addSections] at hroot'
    obtain ⟨grown, hgrown, hroot'⟩ := Option.bind_eq_some_iff.1 hroot'
    exact ih (fun t ht => hts t (List.mem_cons_of_mem _ ht))
      (h.addSection (hts t List.mem_cons_self) hgrown) hroot'

/-- **A document that was read gives no key twice.** -/
theorem distinct_of_parse? {text : List Char} {ms : List Member} (h : parse? text = some ms) :
    Distinct ms := by
  rw [parse?] at h
  obtain ⟨cs, -, h⟩ := Option.bind_eq_some_iff.1 h
  obtain ⟨ts, hts, h⟩ := Option.bind_eq_some_iff.1 h
  have hnone : Sections.Distinct {} :=
    ⟨fun _ h => absurd h List.not_mem_nil, fun _ h => absurd h List.not_mem_nil⟩
  exact Distinct.nil.addSections (distinct_of_readLines? hnone hts) h

end Toml
end TelemetryLog
