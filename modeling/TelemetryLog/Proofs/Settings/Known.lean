import Mathlib.Data.List.Forall2
import Mathlib.Logic.Function.Basic
import TelemetryLog.Proofs.Toml.Distinct
import TelemetryLog.Settings.Reading

/-!
# The keys that mean something

Of all that a document may hold, eight keys in three sections mean something.  This file says what
they are, apart from the code that reads them, and what reading a document does in terms of them:
the values that are known, in the order in which they stand, overwrite the defaults, and the first
one that is not of its kind is an error instead.

## What is here

* `Part`, `Known` — the sections and the keys, with the kind and the default of each.
* `Settings.value` — what settings say of a key; `Settings.eq_of_value_eq` is that they say nothing
  else.
* `Known.found` — what a document says of a key, by looking it up.
* `listed`, `firstMisfit?` — the known values of a document in order, and the first of them that is
  not of its kind.
* `readsAs_ofDocument` — reading a document goes through that list and sees nothing else of it, and
  `sets_listed` that what comes of it is what looking up finds.

## How it goes

The reader of settings is a loop over members inside a loop over sections, and stops at the first
value that it cannot take.  `ReadsAs es P r` says of its result `r` all that matters: the first
misfit among the values `es` is reported, and if there is none, the result has the property `P`.  It
composes as the loops do (`ReadsAs.bind`), and the property of a loop is that the settings say
afterwards what `sets` makes of the values.

Each key has a reader of its own, made of two parts: how a value is taken and where it is put.
`Expected.TakenBy` speaks of the first and is proved once for each kind of value; where it is put is
only that all other keys keep what was said of them.  So a key that is added is one more line in
`Known` and one more in the section it belongs to.

A section is read into an empty one that then takes the place of what was there.  This is the same
as writing into the settings because nothing has been said of the section before, which holds since
no section occurs twice (`Toml.Distinct`).

A section that is given as something other than a table is a mismatch too, and not one of a key.
`SectionsAreTables` leaves such documents out.
-/

set_option autoImplicit false

namespace TelemetryLog

open Toml (Member Entry Distinct)

/-! ## Sections and keys -/

/-- The sections that mean something. -/
inductive Part where
  /-- The serial link. -/
  | serial
  /-- The log file. -/
  | output
  /-- The diagnostic output. -/
  | logging
deriving DecidableEq

/-- The keys that mean something. -/
inductive Known where
  /-- The path of the device. -/
  | port
  /-- The speed of the link. -/
  | baudRate
  /-- The longest wait for a line. -/
  | readTimeout
  /-- The pause after the link was opened. -/
  | settle
  /-- The path of the log file. -/
  | path
  /-- Must the header of an existing file be that of the schema? -/
  | verifyHeader
  /-- The filter of the events. -/
  | level
  /-- The directory for a copy of the output. -/
  | directory
deriving DecidableEq

namespace Part

/-- The name of the section. -/
def name : Part → String
  | .serial => "serial"
  | .output => "output"
  | .logging => "logging"

/-- All sections. -/
def all : List Part := [.serial, .output, .logging]

/-- The keys of the section. -/
def keys : Part → List Known
  | .serial => [.port, .baudRate, .readTimeout, .settle]
  | .output => [.path, .verifyHeader]
  | .logging => [.level, .directory]

end Part

namespace Known

/-- The section that the key is in. -/
def part : Known → Part
  | .port | .baudRate | .readTimeout | .settle => .serial
  | .path | .verifyHeader => .output
  | .level | .directory => .logging

/-- The name of the key. -/
def name : Known → String
  | .port => "port"
  | .baudRate => "baud_rate"
  | .readTimeout => "read_timeout_ms"
  | .settle => "settle_ms"
  | .path => "path"
  | .verifyHeader => "verify_header"
  | .level => "level"
  | .directory => "dir"

/-- The kind of its value. -/
def expected : Known → Expected
  | .port | .path | .level | .directory => .text
  | .baudRate => .natural 32
  | .readTimeout | .settle => .natural 64
  | .verifyHeader => .boolean

/-- The value it has if nothing is said of it. -/
def unset : Known → Found
  | .port => .text "/dev/ttyUSB0"
  | .baudRate => .integer 115200
  | .readTimeout => .integer 2000
  | .settle => .integer 2000
  | .path => .text "data_motor_training.csv"
  | .verifyHeader => .boolean false
  | .level => .text "info"
  | .directory => .text ""

theorem mem_keys_iff {part : Part} {k : Known} : k ∈ part.keys ↔ k.part = part := by
  cases part <;> cases k <;> decide

theorem name_injective {k k' : Known} (hpart : k.part = k'.part) (h : k.name = k'.name) :
    k = k' := by
  revert hpart h
  cases k <;> cases k' <;> decide

end Known

/-! ## Values -/

/-- Is what was found of the kind that was expected? -/
def Expected.admits : Expected → Found → Bool
  | .text, .text _ => true
  | .natural bits, .integer n => 0 ≤ n && n < Nat.pow 2 bits
  | .boolean, .boolean _ => true
  | _, _ => false

/-- What settings say of a key. -/
def Settings.value (s : Settings) : Known → Found
  | .port => .text s.serial.port
  | .baudRate => .integer s.serial.baudRate
  | .readTimeout => .integer s.serial.readTimeout
  | .settle => .integer s.serial.settle
  | .path => .text s.output.path
  | .verifyHeader => .boolean s.output.verifyHeader
  | .level => .text s.logging.level
  | .directory => .text s.logging.directory

/-- Settings that say the same of every key are the same. -/
theorem Settings.eq_of_value_eq {s s' : Settings} (h : ∀ k, s.value k = s'.value k) : s = s' := by
  obtain ⟨⟨port, rate, timeout, settle⟩, ⟨path, verify⟩, ⟨level, directory⟩⟩ := s
  obtain ⟨⟨port', rate', timeout', settle'⟩, ⟨path', verify'⟩, ⟨level', directory'⟩⟩ := s'
  have hport : port = port' := Found.text.inj (h .port)
  have hrate : rate = rate' := Int.ofNat.inj (Found.integer.inj (h .baudRate))
  have htimeout : timeout = timeout' := Int.ofNat.inj (Found.integer.inj (h .readTimeout))
  have hsettle : settle = settle' := Int.ofNat.inj (Found.integer.inj (h .settle))
  have hpath : path = path' := Found.text.inj (h .path)
  have hverify : verify = verify' := Found.boolean.inj (h .verifyHeader)
  have hlevel : level = level' := Found.text.inj (h .level)
  have hdirectory : directory = directory' := Found.text.inj (h .directory)
  rw [hport, hrate, htimeout, hsettle, hpath, hverify, hlevel, hdirectory]

/-- Settings that nothing was said of say the default of every key. -/
theorem Settings.value_default (k : Known) : ({} : Settings).value k = k.unset := by
  cases k <;> rfl

/-- Every default is of the kind of its key. -/
theorem Known.admits_unset (k : Known) : k.expected.admits k.unset = true := by
  cases k <;> rfl

/-! ## What a document says

A document is looked at in two ways.  `Known.found` asks for one key and looks it up; `listed` goes
through all members and keeps those that are known.  The first says what settings should be, the
second follows the reader. -/

/-- What stands in a document for a key. -/
def Known.entry? (k : Known) (ms : List Member) : Option Entry :=
  match Toml.find? k.part.name ms with
  | some (_, .table _ inner) => Toml.find? k.name inner
  | _ => none

/-- What a document says of a key: the value that stands there, or the default. -/
def Known.found (k : Known) (ms : List Member) : Found :=
  ((k.entry? ms).map fun e => .ofValue e.2).getD k.unset

/-- The known values in a section, in their order. -/
def Part.listed (part : Part) (ms : List Member) : List (Known × Entry) :=
  ms.filterMap fun m => (part.keys.find? fun k => k.name == m.1.name).map fun k => (k, m.2)

/-- The known values in a member of a document, in their order. -/
def listedIn (m : Member) : List (Known × Entry) :=
  match Part.all.find? (fun part => part.name == m.1.name), m.2.2 with
  | some part, .table _ inner => part.listed inner
  | _, _ => []

/-- The known values in a document, in their order. -/
def listed (ms : List Member) : List (Known × Entry) := ms.flatMap listedIn

/-- Is the value not of the kind of its key? -/
def isMisfit (p : Known × Entry) : Bool := !p.1.expected.admits (.ofValue p.2.2)

/-- The first value of a document that is not of the kind of its key. -/
def firstMisfit? (ms : List Member) : Option (Known × Entry) := (listed ms).find? isMisfit

/-- What is said of the keys after values have been taken over, one after the other. -/
def sets (es : List (Known × Entry)) (said : Known → Found) : Known → Found :=
  es.foldl (fun (said : Known → Found) p => Function.update said p.1 (.ofValue p.2.2)) said

theorem sets_append (es fs : List (Known × Entry)) (said : Known → Found) :
    sets (es ++ fs) said = sets fs (sets es said) := List.foldl_append

/-! ## Reading -/

/-- The result of reading some values: the first that is not of its kind is reported, and if there
is none, the result has a property. -/
def ReadsAs {σ : Type} (es : List (Known × Entry)) (P : σ → Prop) (r : Except Mismatch σ) : Prop :=
  match es.find? isMisfit with
  | some (k, e) => r = .error (mismatch e k.expected)
  | none => ∃ v, r = .ok v ∧ P v

namespace ReadsAs

variable {σ τ : Type} {es fs : List (Known × Entry)} {P : σ → Prop} {Q : τ → Prop}

theorem ok {v : σ} (h : P v) : ReadsAs [] P (.ok v) := ⟨v, rfl, h⟩

/-- Values are read one after the other. -/
theorem bind {r : Except Mismatch σ} {next : σ → Except Mismatch τ} :
    ReadsAs es P r → (∀ v, P v → ReadsAs fs Q (next v)) →
      ReadsAs (es ++ fs) Q (match r with | .error m => .error m | .ok v => next v) := by
  intro h hnext
  rw [ReadsAs] at h
  rw [ReadsAs, List.find?_append]
  cases hes : es.find? isMisfit with
  | some p =>
    rw [hes] at h
    rw [h]
    rfl
  | none =>
    rw [hes] at h
    obtain ⟨v, rfl, hv⟩ := h
    exact hnext v hv

theorem map {r : Except Mismatch σ} {f : σ → τ} (h : ReadsAs es P r) (hf : ∀ v, P v → Q (f v)) :
    ReadsAs es Q (r.map f) := by
  rw [ReadsAs] at h ⊢
  cases hes : es.find? isMisfit with
  | some p =>
    rw [hes] at h
    rw [h]
    rfl
  | none =>
    rw [hes] at h
    obtain ⟨v, rfl, hv⟩ := h
    exact ⟨f v, rfl, hf v hv⟩

theorem imp {P' : σ → Prop} {r : Except Mismatch σ} (h : ReadsAs es P r) (hP : ∀ v, P v → P' v) :
    ReadsAs es P' r := by
  rw [ReadsAs] at h ⊢
  cases hes : es.find? isMisfit with
  | some p => rwa [hes] at h
  | none =>
    rw [hes] at h
    obtain ⟨v, hr, hv⟩ := h
    exact ⟨v, hr, hP v hv⟩

end ReadsAs

/-! ### Single values -/

/-- The reader takes just the values of a kind, and takes them as they are. -/
def Expected.TakenBy {α : Type} (x : Expected) (read : Entry → Except Mismatch α)
    (found : α → Found) : Prop :=
  ∀ e, if x.admits (.ofValue e.2) then ∃ a, read e = .ok a ∧ .ofValue e.2 = found a
    else read e = .error (mismatch e x)

theorem takenBy_readText : Expected.text.TakenBy readText .text := by
  rintro ⟨span, v⟩
  cases v with
  | text s => exact ⟨s, rfl, rfl⟩
  | _ => rfl

theorem takenBy_readBoolean : Expected.boolean.TakenBy readBoolean .boolean := by
  rintro ⟨span, v⟩
  cases v with
  | boolean b => exact ⟨b, rfl, rfl⟩
  | _ => rfl

theorem takenBy_readNatural (bits : Nat) :
    (Expected.natural bits).TakenBy (readNatural bits) fun n => .integer n := by
  rintro ⟨span, v⟩
  cases v with
  | integer n =>
    simp only [Found.ofValue, Expected.admits, readNatural]
    split
    · rename_i h
      rw [Bool.and_eq_true, decide_eq_true_eq] at h
      exact ⟨n.toNat, rfl, by rw [Int.toNat_of_nonneg h.1]⟩
    · rfl
  | _ => rfl

variable {σ : Type}

/-- A reader takes the values of a key over into a section, which `put` puts into settings. -/
def Known.ReadBy (k : Known) (put : σ → Settings → Settings)
    (read : Entry → σ → Except Mismatch σ) : Prop :=
  ∀ e v, ReadsAs [(k, e)] (fun v' => ∀ s, (put v' s).value = sets [(k, e)] (put v s).value)
    (read e v)

/-- A key whose values are taken as they are, and change nothing that is said of other keys. -/
theorem Known.readBy_of_takenBy {α : Type} (k : Known) {put : σ → Settings → Settings}
    {x : Expected} (hk : k.expected = x) {take : Entry → Except Mismatch α} {found : α → Found}
    (htake : x.TakenBy take found) {set : α → σ → σ}
    (hset : ∀ a v s, (put (set a v) s).value = Function.update (put v s).value k (found a)) :
    k.ReadBy put fun e v => (take e).map fun a => set a v := by
  subst hk
  intro e v
  have htaken := htake e
  show ReadsAs [(k, e)] _ ((take e).map fun a => set a v)
  rw [ReadsAs, List.find?_singleton, isMisfit]
  by_cases h : k.expected.admits (.ofValue e.2) = true
  · rw [if_pos h] at htaken
    obtain ⟨a, ha, hfound⟩ := htaken
    rw [h, ha]
    refine ⟨set a v, rfl, fun s => ?_⟩
    rw [hset, ← hfound]
    rfl
  · rw [if_neg h] at htaken
    rw [Bool.not_eq_true] at h
    rw [h, htaken]
    rfl

/-! ### Sections -/

/-- Looking a name up in two lists that go together finds nothing, or two things that go
together. -/
theorem find?_of_forall₂ {κ φ : Type} {nameOf : κ → String} {keyOf : φ → String}
    {R : κ → φ → Prop} {ks : List κ} {fs : List φ}
    (h : List.Forall₂ (fun k f => keyOf f = nameOf k ∧ R k f) ks fs) (name : String) :
    (ks.find? (fun k => nameOf k == name) = none ∧ fs.find? (fun f => keyOf f == name) = none) ∨
      ∃ k f, ks.find? (fun k => nameOf k == name) = some k ∧
        fs.find? (fun f => keyOf f == name) = some f ∧ R k f := by
  induction h with
  | nil => exact .inl ⟨rfl, rfl⟩
  | @cons k f ks fs hkf _ ih =>
    rw [List.find?_cons, List.find?_cons, hkf.1]
    cases nameOf k == name with
    | true => exact .inr ⟨k, f, rfl, rfl, hkf.2⟩
    | false => exact ih

/-- The settings of a section are readers of its keys. -/
def Part.AreRead (part : Part) (put : σ → Settings → Settings) (settings : List (Setting σ)) :
    Prop :=
  List.Forall₂ (fun k f => f.key = k.name ∧ k.ReadBy put f.read) part.keys settings

/-- Reading a section takes over the known values in it and looks at nothing else. -/
theorem Part.readsAs_readMembers {part : Part} {put : σ → Settings → Settings}
    {settings : List (Setting σ)} (h : part.AreRead put settings) (ms : List Member) (v : σ) :
    ReadsAs (part.listed ms)
      (fun v' => ∀ s, (put v' s).value = sets (part.listed ms) (put v s).value)
      (readMembers settings ms v) := by
  induction ms generalizing v with
  | nil => exact .ok fun s => rfl
  | cons m ms ih =>
    obtain ⟨key, e⟩ := m
    rw [readMembers, Part.listed, List.filterMap_cons]
    rcases find?_of_forall₂ h key.name with ⟨hks, hfs⟩ | ⟨k, f, hks, hfs, hread⟩
    · rw [hks, hfs]
      exact ih v
    · rw [hks, hfs]
      refine (hread e v).bind fun v' hv' => (ih v').imp fun v'' hv'' s => ?_
      rw [hv'', hv']
      rfl

theorem areRead_serialSettings :
    Part.serial.AreRead (fun v s => { s with serial := v }) serialSettings := by
  simp only [Part.AreRead, Part.keys, serialSettings, List.forall₂_cons, List.forall₂_nil_left_iff,
    Known.name, and_true, true_and]
  refine ⟨Known.readBy_of_takenBy .port rfl takenBy_readText ?_,
    Known.readBy_of_takenBy .baudRate rfl (takenBy_readNatural 32) ?_,
    Known.readBy_of_takenBy .readTimeout rfl (takenBy_readNatural 64) ?_,
    Known.readBy_of_takenBy .settle rfl (takenBy_readNatural 64) ?_⟩
  all_goals
    intro a v s
    funext k
    cases k <;> rfl

theorem areRead_outputSettings :
    Part.output.AreRead (fun v s => { s with output := v }) outputSettings := by
  simp only [Part.AreRead, Part.keys, outputSettings, List.forall₂_cons, List.forall₂_nil_left_iff,
    Known.name, and_true, true_and]
  refine ⟨Known.readBy_of_takenBy .path rfl takenBy_readText ?_,
    Known.readBy_of_takenBy .verifyHeader rfl takenBy_readBoolean ?_⟩
  all_goals
    intro a v s
    funext k
    cases k <;> rfl

theorem areRead_loggingSettings :
    Part.logging.AreRead (fun v s => { s with logging := v }) loggingSettings := by
  simp only [Part.AreRead, Part.keys, loggingSettings, List.forall₂_cons, List.forall₂_nil_left_iff,
    Known.name, and_true, true_and]
  refine ⟨Known.readBy_of_takenBy .level rfl takenBy_readText ?_,
    Known.readBy_of_takenBy .directory rfl takenBy_readText ?_⟩
  all_goals
    intro a v s
    funext k
    cases k <;> rfl

/-! ### Documents -/

/-- Nothing has been said of the section yet. -/
def Part.IsBlankIn (part : Part) (s : Settings) : Prop :=
  match part with
  | .serial => s.serial = {}
  | .output => s.output = {}
  | .logging => s.logging = {}

theorem Part.isBlankIn_default (part : Part) : part.IsBlankIn {} := by cases part <;> rfl

/-- A reader takes the tables of a section over into settings that say nothing of the section, and
changes no other section. -/
def Part.ReadBy (part : Part) (read : Entry → Settings → Except Mismatch Settings) : Prop :=
  ∀ span kind inner s, part.IsBlankIn s →
    ReadsAs (part.listed inner)
      (fun s' => s'.value = sets (part.listed inner) s.value ∧
        ∀ other, other ≠ part → other.IsBlankIn s → other.IsBlankIn s')
      (read (span, .table kind inner) s)

/-- A section that is there sets without any key what one that is missing leaves. -/
theorem Part.readBy_of_areRead {part : Part} {put : σ → Settings → Settings}
    {settings : List (Setting σ)} (h : part.AreRead put settings) {unset : σ}
    (hunset : ∀ s, part.IsBlankIn s → put unset s = s)
    (hother : ∀ v s other, other ≠ part → other.IsBlankIn s → other.IsBlankIn (put v s))
    (name : String) :
    part.ReadBy fun e s => (readSection name settings unset e).map fun v => put v s := by
  intro span kind inner s hblank
  refine (Part.readsAs_readMembers h inner unset).map fun v hv => ⟨?_, hother v s⟩
  rw [hv, hunset s hblank]

theorem forall₂_sections :
    List.Forall₂ (fun part f => f.key = part.name ∧ part.ReadBy f.read) Part.all sections := by
  rw [Part.all, sections]
  refine .cons ⟨rfl, Part.readBy_of_areRead areRead_serialSettings ?serial ?notSerial _⟩
    (.cons ⟨rfl, Part.readBy_of_areRead areRead_outputSettings ?output ?notOutput _⟩
      (.cons ⟨rfl, Part.readBy_of_areRead areRead_loggingSettings ?logging ?notLogging _⟩ .nil))
  case serial | output | logging =>
    rintro ⟨serial, output, logging⟩ ⟨⟩
    rfl
  case notSerial | notOutput | notLogging =>
    intro v s other hne hblank
    cases other <;> first | exact hblank | exact absurd rfl hne

/-- The sections of a document are tables. -/
def SectionsAreTables (ms : List Member) : Prop :=
  ∀ (part : Part) (e : Entry), Toml.find? part.name ms = some e →
    ∃ kind inner, e.2 = .table kind inner

theorem readsAs_sections {ms : List Member} (hms : (Toml.names ms).Nodup)
    (htables : ∀ m ∈ ms, ∀ part : Part, part.name = m.1.name →
      ∃ kind inner, m.2.2 = .table kind inner)
    {s : Settings} (hblank : ∀ part : Part, part.name ∈ Toml.names ms → part.IsBlankIn s) :
    ReadsAs (listed ms) (fun s' => s'.value = sets (listed ms) s.value)
      (readMembers sections ms s) := by
  induction ms generalizing s with
  | nil => exact .ok rfl
  | cons m ms ih =>
    have hrest := List.nodup_cons.1 hms
    have htail := @ih hrest.2 fun m hm => htables m (List.mem_cons_of_mem _ hm)
    have hhead := htables m List.mem_cons_self
    obtain ⟨key, span, value⟩ := m
    rw [readMembers, listed, List.flatMap_cons, listedIn]
    rcases find?_of_forall₂ forall₂_sections key.name with
      ⟨hall, hsections⟩ | ⟨part, f, hall, hsections, hread⟩
    · rw [hall, hsections]
      exact htail fun part hpart => hblank part (List.mem_cons_of_mem _ hpart)
    · have hname : part.name = key.name := by simpa using List.find?_some hall
      obtain ⟨kind, inner, hvalue⟩ := hhead part hname
      simp only at hvalue
      subst hvalue
      rw [hall, hsections]
      -- the section is read for the first time, and will not be read again
      have hhere : part.IsBlankIn s := hblank part (hname ▸ List.mem_cons_self)
      refine (hread span kind inner s hhere).bind fun s' hs' => ?_
      refine (htail fun other hother => ?_).imp fun s'' hs'' => ?_
      · refine hs'.2 other ?_ (hblank other (List.mem_cons_of_mem _ hother))
        rintro rfl
        rw [hname] at hother
        exact hrest.1 hother
      · rw [hs'', hs'.1, sets_append]
        rfl

/-- **Reading a document takes over the known values in it and looks at nothing else.** -/
theorem readsAs_ofDocument {ms : List Member} (hms : Distinct ms) (htables : SectionsAreTables ms) :
    ReadsAs (listed ms) (fun s => s.value = sets (listed ms) ({} : Settings).value)
      (Settings.ofDocument ms) := by
  refine readsAs_sections hms.nodup (fun m hm part hname => ?_) fun part _ =>
    part.isBlankIn_default
  exact htables part m.2 (hms.find?_eq_some_iff.2 ⟨m.1, hname.symm, hm⟩)

/-! ## Looking values up

In a document without repeated keys the two ways agree: a value is listed just if it is found, and
at most one is listed for each key, so taking over all that is listed sets each key to what is found
for it. -/

theorem Part.mem_listed_iff {part : Part} {ms : List Member} (hms : Distinct ms) {k : Known}
    {e : Entry} :
    (k, e) ∈ part.listed ms ↔ k.part = part ∧ Toml.find? k.name ms = some e := by
  rw [Part.listed, List.mem_filterMap, hms.find?_eq_some_iff]
  constructor
  · rintro ⟨⟨key, e'⟩, hmem, hk⟩
    obtain ⟨k', hfound, heq⟩ := Option.map_eq_some_iff.1 hk
    cases heq
    have hname : k.name = key.name := by simpa using List.find?_some hfound
    exact ⟨Known.mem_keys_iff.1 (List.mem_of_find?_eq_some hfound), key, hname.symm, hmem⟩
  · rintro ⟨hpart, key, hname, hmem⟩
    refine ⟨(key, e), hmem, ?_⟩
    have hk : k ∈ part.keys := Known.mem_keys_iff.2 hpart
    cases hfound : part.keys.find? fun k => k.name == key.name with
    | none => exact absurd hname.symm (by simpa using List.find?_eq_none.1 hfound k hk)
    | some k' =>
      have hpart' := Known.mem_keys_iff.1 (List.mem_of_find?_eq_some hfound)
      have hname' : k'.name = key.name := by simpa using List.find?_some hfound
      rw [Known.name_injective (hpart'.trans hpart.symm) (hname'.trans hname)]
      rfl

theorem find?_all (part : Part) :
    Part.all.find? (fun other => other.name == part.name) = some part := by
  cases part <;> rfl

/-- The values that are listed are those that looking up finds. -/
theorem mem_listed_iff {ms : List Member} (hms : Distinct ms) {k : Known} {e : Entry} :
    (k, e) ∈ listed ms ↔ k.entry? ms = some e := by
  rw [listed, List.mem_flatMap]
  constructor
  · rintro ⟨⟨key, span, value⟩, hmem, hk⟩
    rw [listedIn] at hk
    split at hk
    · rename_i part kind inner hpart hvalue
      have hname : part.name = key.name := by simpa using List.find?_some hpart
      have hsection : Toml.find? part.name ms = some (span, value) :=
        hms.find?_eq_some_iff.2 ⟨key, hname.symm, hmem⟩
      simp only at hvalue
      subst hvalue
      have hinner := Toml.Value.distinct_table_iff.1 (hms.of_find? hsection)
      obtain ⟨rfl, hfound⟩ := (Part.mem_listed_iff hinner).1 hk
      rw [Known.entry?, hsection]
      exact hfound
    · exact absurd hk List.not_mem_nil
  · intro hk
    rw [Known.entry?] at hk
    split at hk
    · rename_i span kind inner hsection
      obtain ⟨key, hname, hmem⟩ := hms.find?_eq_some_iff.1 hsection
      refine ⟨_, hmem, ?_⟩
      have hinner := Toml.Value.distinct_table_iff.1 (hms.of_find? hsection)
      simp only [listedIn, hname, find?_all]
      exact (Part.mem_listed_iff hinner).2 ⟨rfl, hk⟩
    · cases hk

theorem sets_of_not_mem {es : List (Known × Entry)} {k : Known} (h : ∀ e, (k, e) ∉ es)
    (said : Known → Found) : sets es said k = said k := by
  induction es generalizing said with
  | nil => rfl
  | cons p es ih =>
    have hne : k ≠ p.1 := by
      rintro rfl
      exact h p.2 List.mem_cons_self
    have hrest := ih (fun e he => h e (List.mem_cons_of_mem _ he))
      (Function.update said p.1 (.ofValue p.2.2))
    exact hrest.trans (Function.update_of_ne hne _ _)

theorem sets_of_mem {es : List (Known × Entry)} {k : Known} {e : Entry} (hmem : (k, e) ∈ es)
    (hone : ∀ e', (k, e') ∈ es → e' = e) (said : Known → Found) :
    sets es said k = .ofValue e.2 := by
  induction es generalizing said with
  | nil => cases hmem
  | cons p es ih =>
    by_cases hlater : (k, e) ∈ es
    · exact ih hlater (fun e' he' => hone e' (List.mem_cons_of_mem _ he')) _
    · have hp : p = (k, e) := by
        rcases List.mem_cons.1 hmem with h | h
        · exact h.symm
        · exact absurd h hlater
      have hnone : ∀ e', (k, e') ∉ es := by
        intro e' he'
        exact hlater (hone e' (List.mem_cons_of_mem _ he') ▸ he')
      subst hp
      have hrest := sets_of_not_mem hnone (Function.update said k (.ofValue e.2))
      exact hrest.trans (Function.update_self _ _ _)

/-- **Values taken over in order are what looking up finds.** -/
theorem sets_listed {ms : List Member} (hms : Distinct ms) (k : Known) :
    sets (listed ms) ({} : Settings).value k = k.found ms := by
  rw [Known.found]
  cases hk : k.entry? ms with
  | none =>
    have hnone : ∀ e, (k, e) ∉ listed ms := by
      intro e he
      rw [mem_listed_iff hms, hk] at he
      cases he
    rw [sets_of_not_mem hnone, Settings.value_default]
    rfl
  | some e =>
    refine sets_of_mem ((mem_listed_iff hms).2 hk) (fun e' he' => ?_) _
    rw [mem_listed_iff hms, hk, Option.some.injEq] at he'
    exact he'.symm

/-- There is no misfit just if all that is said of keys is of their kinds. -/
theorem firstMisfit?_eq_none_iff {ms : List Member} (hms : Distinct ms) :
    firstMisfit? ms = none ↔ ∀ k : Known, k.expected.admits (k.found ms) = true := by
  rw [firstMisfit?, List.find?_eq_none]
  constructor
  · intro h k
    rw [Known.found]
    cases hk : k.entry? ms with
    | none => exact k.admits_unset
    | some e => simpa [isMisfit] using h (k, e) ((mem_listed_iff hms).2 hk)
  · rintro h ⟨k, e⟩ hmem
    have hk := h k
    rw [Known.found, (mem_listed_iff hms).1 hmem] at hk
    simpa [isMisfit] using hk

end TelemetryLog
