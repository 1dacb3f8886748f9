import TelemetryLog.Proofs.Disk.Contents

/-!
# Growing disks

Names that are added to a disk are new names, so what a path led to it still leads to
(`Extends.openAppend`).  A file is made only under a path at which nothing is
(`not_isThere_of_create`), and then it is what this path leads to (`openAppend_of_create`).

Making directories is a matter of making one directory after another
(`makeDirectories_induction`), so it adds directories and does nothing else
(`moreDirectories_makeDirectories`).

## What is here

* `resolve_eq_ok_iff`, `openAppend_eq_ok_iff`, `create_eq_ok`, `makeDirectory_eq_ok` — what it means
  that an operation succeeds, in terms of names and entries.  Nothing after these looks into the
  operations.
* `Extends` — every name of one disk stands for the same on another.  It says nothing of contents,
  so it holds also where bytes are added to a file.
* `IsThere` — whether anything is at a path, which is what decides between opening and creating.
* `MoreDirectories` — some directories more and nothing else, contents included.
* `Sound` — every file that has a name has contents, which makes a number that a path leads to the
  number of some contents.  No operation could break it, and a disk that is put together by hand
  could; so the statements about logs ask for it, and `sound_ofFiles` is where such disks come from.

Of the operations that change a disk only `remove` takes a name away.  A log never does that, and
nothing is said of it here.
-/

set_option autoImplicit false

namespace TelemetryLog
namespace Disk

variable {d d' : Disk}

/-! ## When a path can be followed

An operation on a path can fail in many ways, and here it matters only when it does not.  So for
each operation there is a statement that takes its success apart: the path was a path, its names led
somewhere, and there something was or was not. -/

theorem resolve_eq_ok_iff {p : Path} {names : List String} :
    d.resolve p = .ok names ↔
      d.walk (d.origin p) p.names = .ok names ∧
        (p.slashEnd = true → d.isDirectoryAt names = true) := by
  rw [resolve]
  cases d.walk (d.origin p) p.names with
  | error e => simp
  | ok found =>
    by_cases hslash : p.slashEnd = true
    · by_cases hdir : d.isDirectoryAt found = true
      · simp only [hslash, hdir, Bool.not_true, Bool.and_false, Bool.false_eq_true, if_false,
          Except.ok.injEq, forall_const]
        exact ⟨fun h => ⟨h, h ▸ hdir⟩, And.left⟩
      · simp only [hslash, hdir, Bool.not_false, Bool.and_true, if_true, Except.ok.injEq,
          reduceCtorEq, forall_const, false_iff, not_and]
        exact fun h => h ▸ hdir
    · simp [hslash]

theorem openAppend_eq_ok_iff {path : String} {number : Nat} :
    d.openAppend path = .ok number ↔
      ∃ p names, Path.parse path = .ok p ∧ d.resolve p = .ok names ∧
        d.entry? names = some (.file number) := by
  rw [openAppend]
  cases Path.parse path with
  | error e => simp
  | ok p =>
    cases hr : d.resolve p with
    | error e => simp [hr]
    | ok names =>
      cases he : d.entry? names with
      | none => simp [hr, he]
      | some e => cases e <;> simp [hr, he]

theorem walk_append_singleton {start names mid : List String} (h : d.walk start names = .ok mid)
    (name : String) : d.walk start (names ++ [name]) = d.walkName mid name := by
  induction names generalizing start with
  | nil =>
    cases h
    rw [List.nil_append, walk]
    cases d.walkName mid name <;> rfl
  | cons n ns ih =>
    rw [walk] at h
    rw [List.cons_append, walk]
    cases hn : d.walkName start n with
    | error e => rw [hn] at h; cases h
    | ok next =>
      rw [hn] at h
      exact ih h

theorem walk_append_eq_ok_iff {start as bs names : List String} :
    d.walk start (as ++ bs) = .ok names ↔
      ∃ mid, d.walk start as = .ok mid ∧ d.walk mid bs = .ok names := by
  induction as generalizing start with
  | nil => simp [walk]
  | cons a as ih =>
    rw [List.cons_append, walk, walk]
    cases d.walkName start a with
    | error e => simp
    | ok next => exact ih

/-- A name leads on from directories only, and to what is there. -/
theorem walkName_eq_ok {start next : List String} {name : String}
    (h : d.walkName start name = .ok next) :
    d.isDirectoryAt start = true ∧
      (name = "." ∧ next = start ∨ name = ".." ∧ next = start.dropLast ∨
        name ≠ "." ∧ name ≠ ".." ∧ name.utf8ByteSize ≤ Path.maxName ∧
          next = start ++ [name] ∧ ∃ e, d.entry? (start ++ [name]) = some e) := by
  rw [walkName] at h
  split at h
  · cases h
  · rename_i hdir
    refine ⟨by simpa using hdir, ?_⟩
    split at h
    · rename_i hdot
      cases h
      exact .inl ⟨hdot, rfl⟩
    · rename_i hdot
      split at h
      · rename_i hdots
        cases h
        exact .inr (.inl ⟨hdots, rfl⟩)
      · rename_i hdots
        split at h
        · cases h
        · rename_i hlen
          split at h
          · rename_i e he
            cases h
            exact .inr (.inr ⟨hdot, hdots, Nat.le_of_not_lt hlen, rfl, e, he⟩)
          · cases h

theorem isDirectoryAt_of_walk_cons {start ns names : List String} {n : String}
    (h : d.walk start (n :: ns) = .ok names) : d.isDirectoryAt start = true := by
  rw [walk] at h
  cases hn : d.walkName start n with
  | error e => rw [hn] at h; cases h
  | ok next => exact (walkName_eq_ok hn).1

theorem walkName_of_entry {start : List String} {name : String} {e : Entry}
    (hdir : d.isDirectoryAt start = true) (hdot : name ≠ ".") (hdots : name ≠ "..")
    (hlen : name.utf8ByteSize ≤ Path.maxName) (he : d.entry? (start ++ [name]) = some e) :
    d.walkName start name = .ok (start ++ [name]) := by
  rw [walkName, hdir, he, if_neg hdot, if_neg hdots, if_neg (Nat.not_lt.2 hlen)]
  rfl

theorem vacant_eq_ok {p : Path} {slashAllowed : Bool} {names : List String} {name : String}
    (h : d.vacant p slashAllowed = .ok (names, name)) :
    p.names = p.names.dropLast ++ [name] ∧ d.walk (d.origin p) p.names.dropLast = .ok names ∧
      d.isDirectoryAt names = true ∧ name ≠ "." ∧ name ≠ ".." ∧
      (p.slashEnd = true → slashAllowed = true) ∧ name.utf8ByteSize ≤ Path.maxName ∧
      d.entry? (names ++ [name]) = none := by
  -- each test of `vacant` that is passed is one of the statements
  rw [vacant] at h
  cases hlast : p.names.getLast? with
  | none => rw [hlast] at h; cases h
  | some last =>
    rw [hlast] at h
    simp only at h
    cases hw : d.walk (d.origin p) p.names.dropLast with
    | error e => rw [hw] at h; cases h
    | ok found =>
      rw [hw] at h
      simp only at h
      split at h
      · cases h
      · rename_i hdir
        split at h
        · cases h
        · rename_i hdots
          split at h
          · cases h
          · rename_i hslash
            split at h
            · cases h
            · rename_i hlen
              split at h
              · cases h
              · rename_i hnone
                cases h
                simp only [Bool.or_eq_true, decide_eq_true_eq, not_or] at hdots
                obtain ⟨init, hinit⟩ := List.getLast?_eq_some_iff.1 hlast
                refine ⟨by rw [hinit, List.dropLast_concat], rfl, by simpa using hdir,
                  hdots.1, hdots.2, by simpa using hslash, Nat.le_of_not_lt hlen,
                  by simpa using hnone⟩

/-- Nothing new can be made where something is. -/
theorem vacant_of_walk {p : Path} {slashAllowed : Bool} {names : List String}
    (hw : d.walk (d.origin p) p.names = .ok names)
    (hslash : p.slashEnd = true → slashAllowed = true) :
    d.vacant p slashAllowed = .error .taken := by
  rw [vacant]
  cases hlast : p.names.getLast? with
  | none => rfl
  | some last =>
    obtain ⟨init, hinit⟩ := List.getLast?_eq_some_iff.1 hlast
    rw [hinit] at hw
    obtain ⟨mid, hmid, hlastName⟩ := walk_append_eq_ok_iff.1 hw
    rw [← List.nil_append [last], walk_append_singleton rfl] at hlastName
    obtain ⟨hdir, hname⟩ := walkName_eq_ok hlastName
    simp only [hinit, List.dropLast_concat, hmid, hdir]
    have hmade : ¬(p.slashEnd && !slashAllowed) = true := by simpa using hslash
    rcases hname with ⟨rfl, -⟩ | ⟨rfl, -⟩ | ⟨hdot, hdots, hlen, -, e, he⟩
    · rfl
    · rfl
    · simp [hdot, hdots, hmade, Nat.not_lt.2 hlen, he]

theorem create_eq_ok {path : String} {number : Nat} (h : d.create path = .ok (number, d')) :
    ∃ p names name, Path.parse path = .ok p ∧ d.vacant p false = .ok (names, name) ∧
      number = d.contents.length ∧
      d' = { d.addEntry (names ++ [name]) (.file number) with contents := d.contents ++ [[]] } := by
  rw [create] at h
  cases hp : Path.parse path with
  | error e => rw [hp] at h; cases h
  | ok p =>
    rw [hp] at h
    simp only at h
    cases hv : d.vacant p false with
    | error e => rw [hv] at h; cases h
    | ok found =>
      rw [hv] at h
      cases h
      exact ⟨p, found.1, found.2, rfl, hv, rfl, rfl⟩

theorem makeDirectory_eq_ok {path : String} (h : d.makeDirectory path = .ok d') :
    ∃ p names name, Path.parse path = .ok p ∧ d.vacant p true = .ok (names, name) ∧
      d' = d.addEntry (names ++ [name]) .directory := by
  rw [makeDirectory] at h
  cases hp : Path.parse path with
  | error e => rw [hp] at h; cases h
  | ok p =>
    rw [hp] at h
    simp only at h
    cases hv : d.vacant p true with
    | error e => rw [hv] at h; cases h
    | ok found =>
      rw [hv] at h
      cases h
      exact ⟨p, found.1, found.2, rfl, hv, rfl⟩

/-! ## Adding a name -/

theorem entry?_eq_find? {names : List String} (h : names ≠ []) :
    d.entry? names = (d.entries.find? fun e => e.1 == names).map Prod.snd := by
  cases names with
  | nil => exact absurd rfl h
  | cons n ns => rfl

theorem entry?_addEntry_self {names : List String} {e : Entry} (h : d.entry? names = none) :
    Disk.entry? (d.addEntry names e) names = some e := by
  have hnil : names ≠ [] := by
    rintro rfl
    cases h
  rw [entry?_eq_find? hnil] at h ⊢
  rw [addEntry, List.find?_append, Option.map_eq_none_iff.1 h]
  simp

/-! ## What stays

What a path leads to is decided by the entries on its way, and new entries are never on the way of a
path that could be followed before. -/

/-- Every name of the one disk stands for the same on the other. -/
structure Extends (d d' : Disk) : Prop where
  /-- Relative paths start at the same place. -/
  home : d'.home = d.home
  /-- The entries stay. -/
  entry : ∀ {names e}, d.entry? names = some e → d'.entry? names = some e

namespace Extends

theorem refl (d : Disk) : Extends d d := ⟨rfl, id⟩

theorem trans {d'' : Disk} (h : Extends d d') (h' : Extends d' d'') : Extends d d'' :=
  ⟨h'.home.trans h.home, fun he => h'.entry (h.entry he)⟩

/-- Names that are added at the end leave the others as they are. -/
theorem of_entries (hhome : d'.home = d.home) {more : List (List String × Entry)}
    (hentries : d'.entries = d.entries ++ more) : Extends d d' := by
  refine ⟨hhome, fun {names e} he => ?_⟩
  by_cases hnil : names = []
  · subst hnil
    exact he
  · rw [entry?_eq_find? hnil, Option.map_eq_some_iff] at he ⊢
    obtain ⟨x, hx, rfl⟩ := he
    exact ⟨x, by rw [hentries, List.find?_append, hx]; rfl, rfl⟩

theorem addEntry (d : Disk) (names : List String) (e : Entry) : Extends d (d.addEntry names e) :=
  of_entries rfl rfl

theorem contents (d : Disk) (cs : List (List UInt8)) : Extends d { d with contents := cs } :=
  ⟨rfl, fun h => (d.entry?_contents cs _).trans h⟩

theorem origin (h : Extends d d') (p : Path) : d'.origin p = d.origin p := by
  rw [Disk.origin, Disk.origin, h.home]

theorem isDirectoryAt (h : Extends d d') {names : List String}
    (hn : d.isDirectoryAt names = true) : d'.isDirectoryAt names = true := by
  rw [Disk.isDirectoryAt, beq_iff_eq] at hn ⊢
  exact h.entry hn

theorem walkName (h : Extends d d') {start next : List String} {name : String}
    (hw : d.walkName start name = .ok next) : d'.walkName start name = .ok next := by
  obtain ⟨hdir, ⟨rfl, rfl⟩ | ⟨rfl, rfl⟩ | ⟨hdot, hdots, hlen, rfl, e, he⟩⟩ := walkName_eq_ok hw
  · simp [Disk.walkName, h.isDirectoryAt hdir]
  · simp [Disk.walkName, h.isDirectoryAt hdir]
  · exact walkName_of_entry (h.isDirectoryAt hdir) hdot hdots hlen (h.entry he)

theorem walk (h : Extends d d') {start names next : List String}
    (hw : d.walk start names = .ok next) : d'.walk start names = .ok next := by
  induction names generalizing start with
  | nil => exact hw
  | cons n ns ih =>
    rw [Disk.walk] at hw ⊢
    cases hn : d.walkName start n with
    | error e => rw [hn] at hw; cases hw
    | ok mid =>
      rw [hn] at hw
      rw [h.walkName hn]
      exact ih hw

theorem resolve (h : Extends d d') {p : Path} {names : List String}
    (hr : d.resolve p = .ok names) : d'.resolve p = .ok names := by
  rw [resolve_eq_ok_iff] at hr ⊢
  rw [h.origin]
  exact ⟨h.walk hr.1, fun hslash => h.isDirectoryAt (hr.2 hslash)⟩

/-- What a path led to it still leads to. -/
theorem openAppend (h : Extends d d') {path : String} {number : Nat}
    (ho : d.openAppend path = .ok number) : d'.openAppend path = .ok number := by
  rw [openAppend_eq_ok_iff] at ho ⊢
  obtain ⟨p, names, hp, hr, he⟩ := ho
  exact ⟨p, names, hp, h.resolve hr, h.entry he⟩

end Extends

theorem extends_of_create {path : String} {number : Nat} (h : d.create path = .ok (number, d')) :
    Extends d d' := by
  obtain ⟨p, names, name, -, -, -, rfl⟩ := create_eq_ok h
  exact (Extends.addEntry d _ _).trans (Extends.contents _ _)

/-- A file that is made is what its path leads to. -/
theorem openAppend_of_create {path : String} {number : Nat}
    (h : d.create path = .ok (number, d')) : d'.openAppend path = .ok number := by
  have hext := extends_of_create h
  obtain ⟨p, names, name, hp, hv, -, hd'⟩ := create_eq_ok h
  obtain ⟨hnames, hwalk, hdir, hdot, hdots, hslash, hlen, hnone⟩ := vacant_eq_ok hv
  have hentry : d'.entry? (names ++ [name]) = some (.file number) := by
    rw [hd', entry?_contents]
    exact entry?_addEntry_self hnone
  rw [openAppend_eq_ok_iff]
  refine ⟨p, names ++ [name], hp, ?_, hentry⟩
  rw [resolve_eq_ok_iff]
  refine ⟨?_, fun hs => absurd (hslash hs) Bool.false_ne_true⟩
  rw [hnames, hext.origin, walk_append_singleton (hext.walk hwalk)]
  exact walkName_of_entry (hext.isDirectoryAt hdir) hdot hdots hlen hentry

/-- A file that is made is empty. -/
theorem bytes_of_create {path : String} {number : Nat}
    (h : d.create path = .ok (number, d')) :
    number < d'.contents.length ∧ d'.bytes number = [] := by
  obtain ⟨p, names, name, -, -, rfl, rfl⟩ := create_eq_ok h
  simp [bytes]

/-- No file can be made where one is. -/
theorem create_of_openAppend {path : String} {number : Nat}
    (h : d.openAppend path = .ok number) : d.create path = .error .taken := by
  obtain ⟨p, names, hp, hr, he⟩ := openAppend_eq_ok_iff.1 h
  obtain ⟨hwalk, hslash⟩ := resolve_eq_ok_iff.1 hr
  have hfile : d.isDirectoryAt names = false := by simp [isDirectoryAt, he]
  rw [create, hp]
  simp only [vacant_of_walk hwalk fun hs => absurd (hslash hs) (by simp [hfile])]

/-! ## What is at a path -/

/-- Something is at the path: a file, a directory or a device. -/
def IsThere (d : Disk) (path : String) : Prop :=
  ∃ p names, Path.parse path = .ok p ∧ d.resolve p = .ok names

theorem Extends.isThere (h : Extends d d') {path : String} (hthere : d.IsThere path) :
    d'.IsThere path := by
  obtain ⟨p, names, hp, hr⟩ := hthere
  exact ⟨p, names, hp, h.resolve hr⟩

/-- A file is made only where nothing is. -/
theorem not_isThere_of_create {path : String} {number : Nat}
    (h : d.create path = .ok (number, d')) : ¬d.IsThere path := by
  rintro ⟨p, found, hp, hr⟩
  obtain ⟨p', names, name, hp', hv, -, -⟩ := create_eq_ok h
  obtain rfl : p = p' := Except.ok.inj (hp.symm.trans hp')
  obtain ⟨-, -, -, -, -, hslash, -, -⟩ := vacant_eq_ok hv
  rw [vacant_of_walk (resolve_eq_ok_iff.1 hr).1 hslash] at hv
  cases hv

/-! ## Making directories

A directory is tried first, its parents only if it cannot be made without them, and then it is tried
again.  For what stays the same on the disk this order does not matter. -/

section MakeDirectories

variable {P : Disk → Prop}
  (hstep : ∀ {d d' : Disk} {path : String}, P d → d.makeDirectory path = .ok d' → P d')

include hstep

theorem makeDirectoryWith_induction (hd : P d) (path : String)
    {again : Unit → Disk × Option Fault} (hagain : P (again ()).1) :
    P (d.makeDirectoryWith path again).1 := by
  rw [makeDirectoryWith]
  split
  · rename_i d' h
    exact hstep hd h
  · exact hagain
  · exact hd

theorem makeDirectoriesUpTo_induction (hd : P d) (path : String) (depth : Nat) :
    P (d.makeDirectoriesUpTo path depth).1 := by
  induction depth generalizing path with
  | zero => exact hd
  | succ depth ih =>
    rw [makeDirectoriesUpTo]
    split
    · exact hd
    · refine makeDirectoryWith_induction hstep hd path ?_
      have habove := ih (Path.parentText path)
      split
      · rename_i d' e h
        rw [h] at habove
        exact habove
      · rename_i d' h
        rw [h] at habove
        exact makeDirectoryWith_induction hstep habove path habove

/-- What making one directory keeps, making directories keeps. -/
theorem makeDirectories_induction (hd : P d) (path : String) : P (d.makeDirectories path).1 :=
  makeDirectoriesUpTo_induction hstep hd path _

end MakeDirectories

/-- The other disk has some directories more, and nothing else is different. -/
structure MoreDirectories (d d' : Disk) : Prop where
  /-- Relative paths start at the same place. -/
  home : d'.home = d.home
  /-- Every name that is new is that of a directory. -/
  entries : ∃ dirs : List (List String),
    d'.entries = d.entries ++ dirs.map fun names => (names, .directory)
  /-- All files are as they were. -/
  contents : d'.contents = d.contents

namespace MoreDirectories

theorem refl (d : Disk) : MoreDirectories d d := ⟨rfl, ⟨[], (List.append_nil _).symm⟩, rfl⟩

theorem trans {d'' : Disk} (h : MoreDirectories d d') (h' : MoreDirectories d' d'') :
    MoreDirectories d d'' := by
  obtain ⟨dirs, hdirs⟩ := h.entries
  obtain ⟨dirs', hdirs'⟩ := h'.entries
  refine ⟨h'.home.trans h.home, ⟨dirs ++ dirs', ?_⟩, h'.contents.trans h.contents⟩
  rw [hdirs', hdirs, List.map_append, List.append_assoc]

theorem makeDirectory {path : String} (h : d.makeDirectory path = .ok d') :
    MoreDirectories d d' := by
  obtain ⟨p, names, name, -, -, rfl⟩ := makeDirectory_eq_ok h
  exact ⟨rfl, ⟨[names ++ [name]], rfl⟩, rfl⟩

theorem toExtends (h : MoreDirectories d d') : Extends d d' := by
  obtain ⟨dirs, hdirs⟩ := h.entries
  exact .of_entries h.home hdirs

theorem bytes (h : MoreDirectories d d') (number : Nat) : d'.bytes number = d.bytes number := by
  rw [Disk.bytes, Disk.bytes, h.contents]

end MoreDirectories

theorem moreDirectories_makeDirectories (d : Disk) (path : String) :
    MoreDirectories d (d.makeDirectories path).1 :=
  makeDirectories_induction (fun h hd => h.trans (.makeDirectory hd)) (.refl d) path

/-! ## Sound disks -/

/-- Every file that has a name has contents. -/
def Sound (d : Disk) : Prop :=
  ∀ names number, (names, Entry.file number) ∈ d.entries → number < d.contents.length

namespace Sound

theorem empty : Sound Disk.empty := fun _ _ h => by simp [Disk.empty] at h

theorem of_openAppend (h : Sound d) {path : String} {number : Nat}
    (ho : d.openAppend path = .ok number) : number < d.contents.length := by
  obtain ⟨p, names, -, -, he⟩ := openAppend_eq_ok_iff.1 ho
  have hne : names ≠ [] := by
    rintro rfl
    cases he
  rw [entry?_eq_find? hne, Option.map_eq_some_iff] at he
  obtain ⟨⟨names', e⟩, hfind, rfl⟩ := he
  exact h _ _ (List.mem_of_find?_eq_some hfind)

theorem modify (h : Sound d) (number : Nat) (f : List UInt8 → List UInt8) :
    Sound { d with contents := d.contents.modify number f } := fun _ _ hmem => by
  rw [List.length_modify]
  exact h _ _ hmem

theorem append (h : Sound d) (number : Nat) (bs : List UInt8) : Sound (d.append number bs) :=
  h.modify number _

/-- A disk stays sound if the files among the new names have contents. -/
theorem of_entries (h : Sound d) {more : List (List String × Entry)}
    (hentries : d'.entries = d.entries ++ more)
    (hlength : d.contents.length ≤ d'.contents.length)
    (hmore : ∀ names number, (names, .file number) ∈ more → number < d'.contents.length) :
    Sound d' := by
  intro names number hmem
  rw [hentries, List.mem_append] at hmem
  rcases hmem with hmem | hmem
  · exact Nat.lt_of_lt_of_le (h names number hmem) hlength
  · exact hmore names number hmem

theorem create (h : Sound d) {path : String} {number : Nat}
    (hc : d.create path = .ok (number, d')) : Sound d' := by
  obtain ⟨p, names, name, -, -, rfl, rfl⟩ := create_eq_ok hc
  refine h.of_entries rfl ?_ ?_ <;> simp

theorem moreDirectories (h : Sound d) (hmore : MoreDirectories d d') : Sound d' := by
  obtain ⟨dirs, hdirs⟩ := hmore.entries
  exact h.of_entries hdirs (Nat.le_of_eq (congrArg List.length hmore.contents.symm)) (by simp)

theorem makeDirectories (h : Sound d) (path : String) : Sound (d.makeDirectories path).1 :=
  h.moreDirectories (moreDirectories_makeDirectories d path)

theorem overwrite (h : Sound d) {path : String} {bs : List UInt8}
    (ho : d.overwrite path bs = .ok d') : Sound d' := by
  rw [Disk.overwrite] at ho
  split at ho
  · cases ho
    exact h.modify _ _
  · split at ho
    · cases ho
    · rename_i hc
      cases ho
      exact (h.create hc).append _ _
  · cases ho

theorem place (h : Sound d) (path : String) (bs : List UInt8) : Sound (d.place path bs) := by
  rw [Disk.place]
  split
  · exact h.makeDirectories path
  · simp only
    split
    · rename_i ho
      exact (h.makeDirectories _).overwrite ho
    · exact h.makeDirectories _

end Sound

/-- A disk that is made from a list of files is sound. -/
theorem sound_ofFiles (files : List (String × List UInt8)) : Sound (ofFiles files) := by
  rw [ofFiles]
  have hd := Sound.empty
  revert hd
  generalize Disk.empty = d
  intro hd
  induction files generalizing d with
  | nil => exact hd
  | cons f files ih => exact ih _ (hd.place f.1 f.2)

end Disk
end TelemetryLog
