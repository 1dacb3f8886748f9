import TelemetryLog.Disk.Fault

/-!
# Paths

A path is a list of names separated by slashes.  Repeated slashes count as one; whether one ends
the path matters, since such a path can only mean a directory.  The names `.` and `..` stay in the
list, because what they mean depends on what is on the disk.

## What is here

* `Path.parse` — the path of a text, or why it is none.
* `Path.parentText` — the text of the path of the directory that holds the last name.

The parent is cut off the text and not off the list of names, because the directories above a log
are made from that text: it says `a/.` or `a//b` where the text did, and its length counts as it
stands.  How the two views fit together is shown in `Proofs.Disk.Parents`.
-/

set_option autoImplicit false

namespace TelemetryLog
namespace Disk

/-- The path of a file or directory. -/
structure Path where
  /-- Does it start at the root instead of the working directory? -/
  absolute : Bool
  /-- Its names, none of them empty. -/
  names : List String
  /-- Does it end in a slash? -/
  slashEnd : Bool
deriving DecidableEq, Repr

namespace Path

/-- The longest name, in bytes. -/
def maxName : Nat := 255

/-- The longest path, in bytes. -/
def maxPath : Nat := 4095

/-- The runs of characters between slashes, in order, after the run in progress, which stands
latest first. -/
def splitFrom (run : List Char) : List Char → List (List Char)
  | [] => [run.reverse]
  | c :: cs => if c = '/' then run.reverse :: splitFrom [] cs else splitFrom (c :: run) cs

/-- The names in a text: the non-empty runs between slashes. -/
def namesOf (s : String) : List String :=
  ((splitFrom [] s.toList).filter fun run => !run.isEmpty).map String.ofList

/-- The path that a text spells, whatever its length. -/
def ofString (s : String) : Path :=
  ⟨s.toList.head? == some '/', namesOf s, s.toList.getLast? == some '/'⟩

/-- The path that a text spells, if the system takes it as one. -/
def parse (s : String) : Except Fault Path :=
  if s.toList.contains '\x00' then .error .nulInPath
  else if s.isEmpty then .error .missing
  else if maxPath < s.utf8ByteSize then .error .nameTooLong
  else .ok (ofString s)

/-- The text of a path, given from its end, without the slashes at the end and without the names
there that stay in place; a single dot in front is kept. -/
def trimEnd : List Char → List Char
  | '/' :: cs => trimEnd cs
  | '.' :: '/' :: cs => trimEnd cs
  | cs => cs

/-- The text of the path of the directory that holds the last name.  It is cut from the text, so it
is never longer. -/
def parentText (s : String) : String :=
  let front := trimEnd ((trimEnd s.toList.reverse).dropWhile (· ≠ '/'))
  if front.isEmpty && s.toList.head? == some '/' then "/" else String.ofList front.reverse

end Path
end Disk
end TelemetryLog
