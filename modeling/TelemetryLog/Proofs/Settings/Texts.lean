import TelemetryLog.Proofs.Settings.Known
import TelemetryLog.Settings.Load

/-!
# What a text sets

Settings read from a text are the defaults and what the text says of the eight known keys; then the
rules are checked.  Nothing else in the text matters to settings that can be used, nor to which rule
is violated first.  Of values that are not of their kind the first one is reported, in the order in
which sections and keys came about; so another key can matter to that, but only by bringing a
section about earlier or later than it would be otherwise.

Whether a level spells a filter is decided outside this program.  So all of this is said of any test
`isFilter` of levels: the settings that can be used are those whose level passes the test and that
violate none of the other rules, whatever the test is.

## What is here

* `Settings.Usable`, `Settings.FirstViolates` — the rules one by one, and the order of the checks.
* `Settings.usable_default_iff` — the defaults violate no rule, if their level passes.
* `Gives` — what a text gives, in terms of what it says of the known keys.
* `GiveSame` — two texts give the same, up to which of several misfits is the first one.
* `ofText_of_known` — the main statement: a text gives what it says of the known keys, and two texts
  that say the same of them give the same.
* `unknown_key_decides_mismatch` — an unknown key that changes which mismatch is reported.

The checks stand one after the other in the program, and the rules are a list of conditions here.
`ChecksFrom` goes along the checks from the last to the first and says what is found from a place
on, so each check is one step of the same form (`ChecksFrom.ite`).

A mismatch has a place in the text besides what was found and what was expected.  Two texts that say
the same need not say it in the same place, so `GiveSame` compares what is left of a mismatch
without it.
-/

set_option autoImplicit false

namespace TelemetryLog

open Toml (Member Entry Distinct)

/-! ## Rules -/

/-- The settings violate the rule. -/
def Settings.Violates (isFilter : String → Bool) (s : Settings) : Violation → Prop
  | .emptyPort => s.serial.port = ""
  | .unusualRate rate => s.serial.baudRate = rate ∧ rate ∉ usualRates
  | .readTimeout => ¬(1 ≤ s.serial.readTimeout ∧ s.serial.readTimeout ≤ 60000)
  | .settle => ¬s.serial.settle ≤ 10000
  | .emptyPath => s.output.path = ""
  | .noFilter level => s.logging.level = level ∧ isFilter level = false

/-- The place of the rule in the order of the checks. -/
def Violation.rank : Violation → Nat
  | .emptyPort => 0
  | .unusualRate _ => 1
  | .readTimeout => 2
  | .settle => 3
  | .emptyPath => 4
  | .noFilter _ => 5

/-- The settings violate no rule. -/
structure Settings.Usable (isFilter : String → Bool) (s : Settings) : Prop where
  /-- There is a port. -/
  port_ne : s.serial.port ≠ ""
  /-- The speed is a usual one. -/
  baudRate_mem : s.serial.baudRate ∈ usualRates
  /-- The wait for a line is positive and at most a minute. -/
  readTimeout_bounds : 1 ≤ s.serial.readTimeout ∧ s.serial.readTimeout ≤ 60000
  /-- The pause is not longer than ten seconds. -/
  settle_le : s.serial.settle ≤ 10000
  /-- There is a path for the log file. -/
  path_ne : s.output.path ≠ ""
  /-- The level spells a filter. -/
  level_isFilter : isFilter s.logging.level = true

/-- The rule is violated, and none that is checked before it. -/
def Settings.FirstViolates (isFilter : String → Bool) (s : Settings) (v : Violation) : Prop :=
  s.Violates isFilter v ∧ ∀ w, s.Violates isFilter w → v.rank ≤ w.rank

namespace Settings

variable {isFilter : String → Bool} {s : Settings}

/-- What the checks from a place on find: the first rule from there on that is violated. -/
def ChecksFrom (isFilter : String → Bool) (s : Settings) (place : Nat) : Option Violation → Prop
  | none => ∀ w, s.Violates isFilter w → w.rank < place
  | some v => s.Violates isFilter v ∧ place ≤ v.rank ∧
    ∀ w, s.Violates isFilter w → place ≤ w.rank → v.rank ≤ w.rank

/-- One check, which is for the only rule at its place, and the others after it. -/
theorem ChecksFrom.ite {place : Nat} {c : Prop} [Decidable c] {v : Violation} (hv : v.rank = place)
    (hc : ∀ w, w.rank = place → (s.Violates isFilter w ↔ c ∧ w = v)) {rest : Option Violation}
    (hrest : s.ChecksFrom isFilter (place + 1) rest) :
    s.ChecksFrom isFilter place (if c then some v else rest) := by
  split
  · rename_i h
    exact ⟨(hc v hv).2 ⟨h, rfl⟩, Nat.le_of_eq hv.symm, fun w _ hw => hv ▸ hw⟩
  · rename_i h
    have hnot (w : Violation) (hw : s.Violates isFilter w) : w.rank ≠ place := fun hplace =>
      h ((hc w hplace).1 hw).1
    cases rest with
    | none =>
      intro w hw
      exact Nat.lt_of_le_of_ne (Nat.le_of_lt_succ (hrest w hw)) (hnot w hw)
    | some u =>
      obtain ⟨hu, hplace, hfirst⟩ := hrest
      refine ⟨hu, Nat.le_of_succ_le hplace, fun w hw hle => hfirst w hw ?_⟩
      exact Nat.lt_of_le_of_ne hle (hnot w hw).symm

theorem checksFrom_violation? (isFilter : String → Bool) (s : Settings) :
    s.ChecksFrom isFilter 0 (s.violation? isFilter) := by
  refine .ite rfl ?_ (.ite rfl ?_ (.ite rfl ?_ (.ite rfl ?_ (.ite rfl ?_ (.ite rfl ?_ ?_)))))
  · rintro (_ | rate | _ | _ | _ | level) hw <;> simp [Violation.rank, Violates] at hw ⊢
  · rintro (_ | rate | _ | _ | _ | level) hw <;> simp [Violation.rank, Violates] at hw ⊢
    exact ⟨fun h => ⟨h.1 ▸ h.2, h.1.symm⟩, fun h => ⟨h.2.symm, h.2 ▸ h.1⟩⟩
  · rintro (_ | rate | _ | _ | _ | level) hw <;> simp [Violation.rank, Violates] at hw ⊢
    omega
  · rintro (_ | rate | _ | _ | _ | level) hw <;> simp [Violation.rank, Violates] at hw ⊢
  · rintro (_ | rate | _ | _ | _ | level) hw <;> simp [Violation.rank, Violates] at hw ⊢
  · rintro (_ | rate | _ | _ | _ | level) hw <;> simp [Violation.rank, Violates] at hw ⊢
    exact ⟨fun h => ⟨h.1 ▸ h.2, h.1.symm⟩, fun h => ⟨h.2.symm, h.2 ▸ h.1⟩⟩
  · rintro (_ | rate | _ | _ | _ | level) _ <;> simp [Violation.rank]

/-- Of the rules at one place only one can be violated. -/
theorem Violates.eq_of_rank_eq {v w : Violation} (hv : s.Violates isFilter v)
    (hw : s.Violates isFilter w) (h : v.rank = w.rank) : v = w := by
  cases v <;> cases w <;> simp [Violation.rank] at h ⊢ <;> exact hv.1.symm.trans hw.1

theorem FirstViolates.unique {v w : Violation} (hv : s.FirstViolates isFilter v)
    (hw : s.FirstViolates isFilter w) : v = w :=
  hv.1.eq_of_rank_eq hw.1 (Nat.le_antisymm (hv.2 w hw.1) (hw.2 v hv.1))

theorem usable_iff : s.Usable isFilter ↔ ∀ v, ¬s.Violates isFilter v := by
  constructor
  · rintro ⟨hport, hrate, htimeout, hsettle, hpath, hlevel⟩ v hv
    cases v with
    | emptyPort => exact hport hv
    | unusualRate rate => exact hv.2 (hv.1 ▸ hrate)
    | readTimeout => exact hv htimeout
    | settle => exact hv hsettle
    | emptyPath => exact hpath hv
    | noFilter level =>
      obtain ⟨rfl, hnone⟩ := hv
      rw [hlevel] at hnone
      cases hnone
  · intro h
    refine ⟨h .emptyPort, ?_, ?_, ?_, h .emptyPath, ?_⟩
    · exact Classical.not_not.1 fun hrate => h (.unusualRate _) ⟨rfl, hrate⟩
    · exact Classical.not_not.1 (h .readTimeout)
    · exact Classical.not_not.1 (h .settle)
    · exact eq_true_of_ne_false fun hfalse => h (.noFilter _) ⟨rfl, hfalse⟩

/-- The defaults violate no rule, if their level spells a filter. -/
theorem usable_default_iff : ({} : Settings).Usable isFilter ↔ isFilter defaultLevel = true :=
  ⟨Usable.level_isFilter, fun h =>
    ⟨by decide, by decide, by decide, by decide, by decide, h⟩⟩

theorem violation?_eq_none_iff : s.violation? isFilter = none ↔ s.Usable isFilter := by
  have hchecks := s.checksFrom_violation? isFilter
  rw [usable_iff]
  cases hfound : s.violation? isFilter with
  | none =>
    rw [hfound] at hchecks
    exact ⟨fun _ w hw => Nat.not_lt_zero _ (hchecks w hw), fun _ => rfl⟩
  | some v =>
    rw [hfound] at hchecks
    exact ⟨nofun, fun h => absurd hchecks.1 (h v)⟩

/-- **The rule that is reported is the first one that is violated.** -/
theorem violation?_eq_some_iff {v : Violation} :
    s.violation? isFilter = some v ↔ s.FirstViolates isFilter v := by
  have hchecks := s.checksFrom_violation? isFilter
  cases hfound : s.violation? isFilter with
  | none =>
    exact ⟨nofun, fun h => absurd h.1 (usable_iff.1 (violation?_eq_none_iff.1 hfound) v)⟩
  | some u =>
    rw [hfound] at hchecks
    have hu : s.FirstViolates isFilter u :=
      ⟨hchecks.1, fun w hw => hchecks.2.2 w hw (Nat.zero_le _)⟩
    rw [Option.some.injEq]
    exact ⟨fun h => h ▸ hu, fun h => FirstViolates.unique hu h⟩

end Settings

/-! ## Texts

A document has been read into members, and what it gives is said of these: `Gives` for one text, and
`GiveSame` for two whose members say the same.  The second is the first for both of them, except
where several keys do not fit: which of those comes first is not a matter of what members say. -/

/-- Settings say what a document says, and the default where it says nothing. -/
def Settings.SaysAs (s : Settings) (ms : List Member) : Prop := ∀ k, s.value k = k.found ms

/-- All that a document says of the known keys is of their kinds. -/
def AllFit (ms : List Member) : Prop := ∀ k : Known, k.expected.admits (k.found ms) = true

/-- What a text that holds these members gives: settings, or why there are none. -/
structure Gives (isFilter : String → Bool) (text : String) (ms : List Member) : Prop where
  /-- It gives the settings that say what it says, if everything fits and no rule is violated. -/
  ok_iff : ∀ s, Settings.ofText isFilter text = .ok s ↔ AllFit ms ∧ s.SaysAs ms ∧ s.Usable isFilter
  /-- If everything fits, the first rule that these settings violate is reported. -/
  violation_iff : ∀ v, Settings.ofText isFilter text = .error (.violation v) ↔
    AllFit ms ∧ ∃ s : Settings, s.SaysAs ms ∧ s.FirstViolates isFilter v
  /-- Otherwise the first misfit is reported, with the place where it stands in the text. -/
  mismatch_iff : ∀ m x, Settings.ofText isFilter text = .error (.mismatch m x) ↔
    ∃ k e, firstMisfit? ms = some (k, e) ∧ m = mismatch e k.expected ∧
      x = .ofSpan text.toList e.1
  /-- There is a first misfit unless everything fits. -/
  firstMisfit_iff : firstMisfit? ms = none ↔ AllFit ms

/-- Two documents say the same of every known key, whether it stands there or not. -/
def SaySame (ms ms' : List Member) : Prop := ∀ k : Known, k.found ms = k.found ms'

/-- The first misfits of two documents are of the same key. -/
def SameMisfit (ms ms' : List Member) : Prop :=
  (firstMisfit? ms).map Prod.fst = (firstMisfit? ms').map Prod.fst

/-- What a document says does not fit for more than one key. -/
def AtMostOneMisfit (ms : List Member) : Prop :=
  ∀ k k' : Known, k.expected.admits (k.found ms) = false →
    k'.expected.admits (k'.found ms) = false → k = k'

/-- Two texts give the same: the same settings, the violation of the same rule, or a mismatch each,
which up to its place is the same one, unless several keys do not fit and another of them is
first. -/
structure GiveSame (isFilter : String → Bool) (text text' : String) (ms ms' : List Member) :
    Prop where
  /-- The settings are the same. -/
  ok_iff : ∀ s, Settings.ofText isFilter text = .ok s ↔ Settings.ofText isFilter text' = .ok s
  /-- The same rule is violated first. -/
  violation_iff : ∀ v, Settings.ofText isFilter text = .error (.violation v) ↔
    Settings.ofText isFilter text' = .error (.violation v)
  /-- A mismatch in one is a mismatch in the other. -/
  mismatch : ∀ m x, Settings.ofText isFilter text = .error (.mismatch m x) →
    ∃ m' x', Settings.ofText isFilter text' = .error (.mismatch m' x') ∧
      (SameMisfit ms ms' ∨ AtMostOneMisfit ms → m'.found = m.found ∧ m'.expected = m.expected)

section Texts

variable {isFilter : String → Bool} {text text' : String} {ms ms' : List Member}

/-- A first misfit is a value that stands in the document and is not of the kind of its key. -/
theorem found_of_firstMisfit? (hms : Distinct ms) {k : Known} {e : Entry}
    (h : firstMisfit? ms = some (k, e)) :
    k.found ms = .ofValue e.2 ∧ k.expected.admits (k.found ms) = false := by
  have hentry := (mem_listed_iff hms).1 (List.mem_of_find?_eq_some h)
  have hfound : k.found ms = .ofValue e.2 := by rw [Known.found, hentry]; rfl
  have hmisfit := List.find?_some h
  rw [isMisfit, ← hfound] at hmisfit
  exact ⟨hfound, by simpa using hmisfit⟩

theorem ofText_of_misfit (isFilter : String → Bool) (h : Toml.parse? text.toList = some ms)
    (htables : SectionsAreTables ms) {k : Known} {e : Entry}
    (hfirst : firstMisfit? ms = some (k, e)) :
    Settings.ofText isFilter text =
      .error (.mismatch (mismatch e k.expected) (.ofSpan text.toList e.1)) := by
  have hread := readsAs_ofDocument (Toml.distinct_of_parse? h) htables
  rw [firstMisfit?] at hfirst
  rw [ReadsAs, hfirst] at hread
  simp only [Settings.ofText, h, hread]
  rfl

theorem ofText_of_fit (isFilter : String → Bool) (h : Toml.parse? text.toList = some ms)
    (htables : SectionsAreTables ms) (hfirst : firstMisfit? ms = none) :
    ∃ s : Settings, s.SaysAs ms ∧ Settings.ofText isFilter text = s.judge isFilter := by
  have hms := Toml.distinct_of_parse? h
  have hread := readsAs_ofDocument hms htables
  rw [firstMisfit?] at hfirst
  rw [ReadsAs, hfirst] at hread
  obtain ⟨s, hs, hvalue⟩ := hread
  refine ⟨s, fun k => ?_, by simp only [Settings.ofText, h, hs]⟩
  rw [hvalue, sets_listed hms]

theorem Settings.SaysAs.unique {s s' : Settings} (h : s.SaysAs ms) (h' : s'.SaysAs ms) : s = s' :=
  Settings.eq_of_value_eq fun k => (h k).trans (h' k).symm

theorem Settings.judge_eq_ok_iff {s s' : Settings} :
    s.judge isFilter = .ok s' ↔ s = s' ∧ s.Usable isFilter := by
  rw [← Settings.violation?_eq_none_iff, Settings.judge]
  cases s.violation? isFilter with
  | some v => exact ⟨nofun, nofun⟩
  | none => simp

theorem Settings.judge_eq_violation_iff {s : Settings} {v : Violation} :
    s.judge isFilter = .error (.violation v) ↔ s.FirstViolates isFilter v := by
  rw [← Settings.violation?_eq_some_iff, Settings.judge]
  cases s.violation? isFilter with
  | some v => simp
  | none => exact ⟨nofun, nofun⟩

theorem Settings.judge_ne_mismatch (isFilter : String → Bool) (s : Settings) (m : Mismatch)
    (x : Toml.Excerpt) : s.judge isFilter ≠ .error (.mismatch m x) := by
  rw [Settings.judge]
  split <;> exact nofun

theorem gives_of_parse? (isFilter : String → Bool) (h : Toml.parse? text.toList = some ms)
    (htables : SectionsAreTables ms) : Gives isFilter text ms := by
  have hfit := firstMisfit?_eq_none_iff (Toml.distinct_of_parse? h)
  cases hfirst : firstMisfit? ms with
  | some p =>
    obtain ⟨k, e⟩ := p
    have htext := ofText_of_misfit isFilter h htables hfirst
    -- something does not fit, so there are no settings to speak of
    have hnot : ¬AllFit ms := fun hall => by
      rw [hfit.2 hall] at hfirst
      cases hfirst
    refine ⟨fun s => ?_, fun v => ?_, fun m x => ?_, hfit⟩
    · rw [htext]
      exact ⟨nofun, fun hs => absurd hs.1 hnot⟩
    · rw [htext]
      exact ⟨nofun, fun hv => absurd hv.1 hnot⟩
    · rw [htext, hfirst]
      constructor
      · rintro ⟨⟩
        exact ⟨k, e, rfl, rfl, rfl⟩
      · rintro ⟨k', e', ⟨⟩, rfl, rfl⟩
        rfl
  | none =>
    obtain ⟨s, hs, htext⟩ := ofText_of_fit isFilter h htables hfirst
    -- the settings that are judged are the only ones that say what the text says
    have hall := hfit.1 hfirst
    refine ⟨fun s' => ?_, fun v => ?_, fun m x => ?_, hfit⟩
    · rw [htext, Settings.judge_eq_ok_iff]
      constructor
      · rintro ⟨rfl, husable⟩
        exact ⟨hall, hs, husable⟩
      · rintro ⟨-, hs', husable⟩
        obtain rfl := hs.unique hs'
        exact ⟨rfl, husable⟩
    · rw [htext, Settings.judge_eq_violation_iff]
      constructor
      · exact fun hv => ⟨hall, s, hs, hv⟩
      · rintro ⟨-, s', hs', hv⟩
        obtain rfl := hs.unique hs'
        exact hv
    · rw [htext, hfirst]
      exact ⟨fun hm => absurd hm (s.judge_ne_mismatch _ m x), nofun⟩

theorem SaySame.allFit_iff (h : SaySame ms ms') : AllFit ms ↔ AllFit ms' := by
  rw [AllFit, AllFit]
  simp only [h _]

theorem SaySame.saysAs_iff (h : SaySame ms ms') {s : Settings} : s.SaysAs ms ↔ s.SaysAs ms' := by
  rw [Settings.SaysAs, Settings.SaysAs]
  simp only [h _]

theorem SaySame.giveSame (h : SaySame ms ms') (hms : Distinct ms) (hms' : Distinct ms')
    (hgives : Gives isFilter text ms) (hgives' : Gives isFilter text' ms') :
    GiveSame isFilter text text' ms ms' := by
  refine ⟨fun s => ?_, fun v => ?_, fun m x hm => ?_⟩
  · rw [hgives.ok_iff, hgives'.ok_iff, h.allFit_iff, h.saysAs_iff]
  · rw [hgives.violation_iff, hgives'.violation_iff, h.allFit_iff]
    simp only [h.saysAs_iff]
  · obtain ⟨k, e, hfirst, rfl, rfl⟩ := (hgives.mismatch_iff m x).1 hm
    obtain ⟨hfound, hmisfit⟩ := found_of_firstMisfit? hms hfirst
    cases hfirst' : firstMisfit? ms' with
    | none =>
      have hall := h.allFit_iff.2 (hgives'.firstMisfit_iff.1 hfirst')
      rw [hall k] at hmisfit
      cases hmisfit
    | some p =>
      obtain ⟨k', e'⟩ := p
      obtain ⟨hfound', hmisfit'⟩ := found_of_firstMisfit? hms' hfirst'
      refine ⟨_, _, (hgives'.mismatch_iff _ _).2 ⟨k', e', hfirst', rfl, rfl⟩, fun hsame => ?_⟩
      have hkey : k' = k := by
        rcases hsame with hsame | hone
        · rw [SameMisfit, hfirst, hfirst'] at hsame
          exact (Option.some.inj hsame).symm
        · rw [← h k'] at hmisfit'
          exact hone k' k hmisfit' hmisfit
      subst hkey
      refine ⟨?_, rfl⟩
      show Found.ofValue e'.2 = Found.ofValue e.2
      rw [← hfound, ← hfound', h k']

end Texts

/-- **A text gives the defaults and what it says of the known keys, if that can be used.**  It gives
settings just if all that it says of the known keys is of their kinds and no rule is violated, and
then they are what it says and the defaults elsewhere; if everything fits, the first rule that is
violated is reported, and otherwise the first value that does not fit.  Two texts that say the same
of the known keys, one that leaves a key out saying its default, give the same. -/
theorem ofText_of_known (isFilter : String → Bool) {text text' : String} {ms ms' : List Member}
    (h : Toml.parse? text.toList = some ms) (htables : SectionsAreTables ms)
    (h' : Toml.parse? text'.toList = some ms') (htables' : SectionsAreTables ms') :
    Gives isFilter text ms ∧ (SaySame ms ms' → GiveSame isFilter text text' ms ms') := by
  have hgives := gives_of_parse? isFilter h htables
  refine ⟨hgives, fun hsame => ?_⟩
  exact hsame.giveSame (Toml.distinct_of_parse? h) (Toml.distinct_of_parse? h') hgives
    (gives_of_parse? isFilter h' htables')

/-- An empty path for the log file, written in two ways, and a level that spells a filter. -/
theorem ofText_of_known_of_empty_path :
    ∃ text text' ms ms',
      text = "output.path = ''\n" ∧
      text' = "x = 1\n[output]\ny = [\x7b\x7d]\npath = \"\"\n" ++
        "verify_header = false\n[serial]\n" ∧
      Toml.parse? text.toList = some ms ∧ SectionsAreTables ms ∧
      Toml.parse? text'.toList = some ms' ∧ SectionsAreTables ms' ∧
      Gives Settings.isFilter text ms ∧ SaySame ms ms' ∧
      GiveSame Settings.isFilter text text' ms ms' ∧
      Settings.ofText Settings.isFilter text = .error (.violation .emptyPath) := by
  have h : Toml.parse? "output.path = ''\n".toList = some
      [(⟨"output", 17, 11⟩, ⟨17, 11⟩, .table .dotted
        [(⟨"path", 10, 6⟩, ⟨3, 1⟩, .text "")])] := rfl
  have h' : Toml.parse? ("x = 1\n[output]\ny = [\x7b\x7d]\npath = \"\"\n" ++
      "verify_header = false\n[serial]\n").toList = some
      [(⟨"x", 65, 64⟩, ⟨61, 60⟩, .integer 1),
      (⟨"output", 58, 52⟩, ⟨59, 10⟩, .table .headed
        [(⟨"y", 50, 49⟩, ⟨46, 42⟩, .array false [(⟨45, 43⟩, .table .inline [])]),
        (⟨"path", 41, 37⟩, ⟨34, 32⟩, .text ""),
        (⟨"verify_header", 31, 18⟩, ⟨15, 10⟩, .boolean false)]),
      (⟨"serial", 8, 2⟩, ⟨9, 1⟩, .table .headed [])] := rfl
  obtain ⟨hgives, himp⟩ := ofText_of_known Settings.isFilter h
    (by rintro (_ | _ | _) e ⟨⟩; exact ⟨_, _, rfl⟩) h'
    (by rintro (_ | _ | _) e ⟨⟩ <;> exact ⟨_, _, rfl⟩)
  refine ⟨_, _, _, _, rfl, rfl, h, ?_, h', ?_, hgives, ?_, himp ?_, by decide +kernel⟩
  case refine_1 | refine_2 => rintro (_ | _ | _) e ⟨⟩ <;> exact ⟨_, _, rfl⟩
  all_goals intro k; cases k <;> rfl

/-- **Which of two mismatches is reported depends on a key that means nothing.**  It brings its
section about, and so the section is read before the other. -/
theorem unknown_key_decides_mismatch :
    ∃ text text' ms ms' m m' x x',
      text = "output.verify_header = 5\nserial.port = true\n" ∧
      text' = "serial.x = 1\noutput.verify_header = 5\nserial.port = true\n" ∧
      Toml.parse? text.toList = some ms ∧ SectionsAreTables ms ∧
      Toml.parse? text'.toList = some ms' ∧ SectionsAreTables ms' ∧ SaySame ms ms' ∧
      (∀ isFilter, Settings.ofText isFilter text = .error (.mismatch m x)) ∧
      (∀ isFilter, Settings.ofText isFilter text' = .error (.mismatch m' x')) ∧
      m.message ≠ m'.message := by
  have h : Toml.parse? "output.verify_header = 5\nserial.port = true\n".toList = some
      [(⟨"output", 44, 38⟩, ⟨44, 38⟩, .table .dotted
        [(⟨"verify_header", 37, 24⟩, ⟨21, 20⟩, .integer 5)]),
      (⟨"serial", 19, 13⟩, ⟨19, 13⟩, .table .dotted
        [(⟨"port", 12, 8⟩, ⟨5, 1⟩, .boolean true)])] := rfl
  have h' : Toml.parse? "serial.x = 1\noutput.verify_header = 5\nserial.port = true\n".toList = some
      [(⟨"serial", 57, 51⟩, ⟨57, 51⟩, .table .dotted
        [(⟨"x", 50, 49⟩, ⟨46, 45⟩, .integer 1), (⟨"port", 12, 8⟩, ⟨5, 1⟩, .boolean true)]),
      (⟨"output", 44, 38⟩, ⟨44, 38⟩, .table .dotted
        [(⟨"verify_header", 37, 24⟩, ⟨21, 20⟩, .integer 5)])] := rfl
  refine ⟨_, _, _, _, ⟨.integer 5, .boolean, 21, 20⟩, ⟨.boolean true, .text, 5, 1⟩,
    ⟨1, "output.verify_header = 5", 23, 1⟩, ⟨3, "serial.port = true", 14, 4⟩, rfl, rfl, h, ?_,
    h', ?_, ?_, ?_, ?_, ?_⟩
  · rintro (_ | _ | _) e ⟨⟩ <;> exact ⟨_, _, rfl⟩
  · rintro (_ | _ | _) e ⟨⟩ <;> exact ⟨_, _, rfl⟩
  · intro k
    cases k <;> rfl
  · exact fun _ => rfl
  · exact fun _ => rfl
  · decide +kernel

end TelemetryLog
