import TelemetryLog.Disk.Basic

/-!
# What files hold

Paths are followed by the entries of a disk alone, so writing to a file leads no path astray
(`openAppend_append`).  A disk is `Sound` if every file that has a name also has contents; every
operation keeps it so, and on such a disk what is added to a file is found at its end
(`read_append`).

Files go by numbers, and paths lead to numbers.  Two files are two numbers, so that adding to one
leaves the other as it is needs no more than that the numbers differ (`bytes_append_of_ne`).  Two
paths may lead to one file, by dots or by a start at the working directory, and then both see what
is added.
-/

set_option autoImplicit false

namespace TelemetryLog
namespace Disk

/-! ## Following a path does not look at contents -/

section Contents

variable (d : Disk) (cs : List (List UInt8))

theorem entry?_contents (names : List String) :
    Disk.entry? { d with contents := cs } names = d.entry? names := by
  cases names <;> rfl

theorem isDirectoryAt_contents (names : List String) :
    ({ d with contents := cs } : Disk).isDirectoryAt names = d.isDirectoryAt names := by
  rw [isDirectoryAt, isDirectoryAt, entry?_contents]

theorem walkName_contents (start : List String) (name : String) :
    ({ d with contents := cs } : Disk).walkName start name = d.walkName start name := by
  rw [walkName, walkName, isDirectoryAt_contents, entry?_contents]

theorem walk_contents (start names : List String) :
    ({ d with contents := cs } : Disk).walk start names = d.walk start names := by
  induction names generalizing start with
  | nil => rfl
  | cons n ns ih =>
    rw [walk, walk, walkName_contents]
    cases d.walkName start n with
    | error e => rfl
    | ok next => exact ih next

theorem resolve_contents (p : Path) :
    ({ d with contents := cs } : Disk).resolve p = d.resolve p := by
  rw [resolve, resolve, walk_contents]
  simp only [isDirectoryAt_contents]
  rfl

theorem openAppend_contents (path : String) :
    ({ d with contents := cs } : Disk).openAppend path = d.openAppend path := by
  rw [openAppend, openAppend]
  cases Path.parse path with
  | error e => rfl
  | ok p => simp only [resolve_contents, entry?_contents]

end Contents

theorem openAppend_append (d : Disk) (number : Nat) (bs : List UInt8) (path : String) :
    (d.append number bs).openAppend path = d.openAppend path := d.openAppend_contents _ path

variable {d : Disk} {number : Nat}

theorem read_eq_ok_iff {path : String} {bs : List UInt8} :
    d.read path = .ok bs ↔ ∃ number, d.openAppend path = .ok number ∧ d.bytes number = bs := by
  rw [read]
  cases d.openAppend path with
  | error e => simp
  | ok number => simp

/-! ## Adding to a file -/

@[simp] theorem append_nil (d : Disk) (number : Nat) : d.append number [] = d := by
  obtain ⟨home, entries, contents⟩ := d
  simp only [append, List.append_nil, mk.injEq, true_and]
  exact List.modify_id ..

theorem append_append (d : Disk) (number : Nat) (as bs : List UInt8) :
    (d.append number as).append number bs = d.append number (as ++ bs) := by
  simp only [append, List.modify_modify_eq]
  simp [Function.comp_def]

@[simp] theorem length_contents_append (d : Disk) (number : Nat) (bs : List UInt8) :
    (d.append number bs).contents.length = d.contents.length := List.length_modify ..

theorem bytes_append_self (h : number < d.contents.length) (bs : List UInt8) :
    (d.append number bs).bytes number = d.bytes number ++ bs := by
  simp [append, bytes, List.getElem?_eq_getElem h]

theorem bytes_append_of_ne {other : Nat} (h : other ≠ number) (bs : List UInt8) :
    (d.append number bs).bytes other = d.bytes other := by
  simp [append, bytes, h.symm]

/-- What is added to a file stands at its end. -/
theorem read_append {path : String} (hpath : d.openAppend path = .ok number)
    (h : number < d.contents.length) (bs : List UInt8) :
    (d.append number bs).read path = .ok (d.bytes number ++ bs) := by
  rw [read, openAppend_append, hpath]
  exact congrArg Except.ok (bytes_append_self h bs)

end Disk
end TelemetryLog
