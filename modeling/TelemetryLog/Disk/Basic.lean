import TelemetryLog.Disk.Path

/-!
# Files and directories

A `Disk` knows what every name stands for and the contents of the files.  Names are counted from
the root, where absolute paths start; the others start at the working directory.  Contents are kept
by file number and never thrown away, so an open file goes on growing when its name is removed.

## What is here

* `Disk`, `Disk.Entry` — the state.
* `walk`, `resolve` — following a path.
* `create`, `makeDirectory`, `makeDirectories`, `openAppend`, `openTerminal`, `read`, `append`,
  `overwrite`, `remove` — the operations; those that change the disk return the new one.
* `ofFiles`, `listing` — a disk from a list of files, and back.

Everything that can go wrong here goes wrong on the way to a file: a name that is missing, taken,
too long, or of the wrong kind.  The checks come in the order in which the system makes them, since
a path that is wrong in several ways is reported for the first of them.

## What is not here

* **Faults of an open file.**  `append` and `read` by number always succeed.  A real file can refuse
  to be written, flushed or synced, for instance when the medium is full, and may then hold a part
  of what was to be written.  Statements about rows and headers are about media that take what they
  are given.
* **Buffers.**  Bytes are in the file as soon as the operation that adds them is over.
* **Permissions, links, and other programs.**  Nobody but the program changes the disk.
* **Limits** other than those of names and paths.
-/

set_option autoImplicit false

namespace TelemetryLog
namespace Disk

/-- What a name stands for. -/
inductive Entry where
  /-- A directory. -/
  | directory
  /-- The file with this number. -/
  | file (number : Nat)
  /-- A serial device, which listings leave out. -/
  | terminal
deriving DecidableEq, Repr

end Disk

/-- The files and directories that there are. -/
structure Disk where
  /-- The names that lead from the root to the working directory. -/
  home : List String
  /-- The entries by the names that lead to them; the root has none. -/
  entries : List (List String × Disk.Entry)
  /-- The contents of the files, by file number. -/
  contents : List (List UInt8)
deriving DecidableEq, Repr

namespace Disk

/-- An empty working directory, and nothing else but the root above it. -/
def empty : Disk := ⟨["home"], [(["home"], .directory)], []⟩

/-! ## Following a path

A path is followed name by name through directories that are really there.  So `new/..` leads
nowhere while `new` is missing, although it would spell the directory one is in; a rule for texts of
paths that shortened it first would answer differently. -/

/-- What these names stand for; no name at all is the root. -/
def entry? (d : Disk) (names : List String) : Option Entry :=
  match names with
  | [] => some .directory
  | _ :: _ => (d.entries.find? fun e => e.1 == names).map Prod.snd

/-- Do these names stand for a directory? -/
def isDirectoryAt (d : Disk) (names : List String) : Bool := d.entry? names == some .directory

/-- Where one name leads from a directory; the root is above itself. -/
def walkName (d : Disk) (start : List String) (name : String) : Except Fault (List String) :=
  if !d.isDirectoryAt start then .error .notDirectory
  else if name = "." then .ok start
  else if name = ".." then .ok start.dropLast
  else if Path.maxName < name.utf8ByteSize then .error .nameTooLong
  else
    match d.entry? (start ++ [name]) with
    | some _ => .ok (start ++ [name])
    | none => .error .missing

/-- Where names lead from a directory. -/
def walk (d : Disk) (start : List String) : List String → Except Fault (List String)
  | [] => .ok start
  | n :: ns =>
    match d.walkName start n with
    | .error e => .error e
    | .ok next => walk d next ns

/-- Where a path starts. -/
def origin (d : Disk) (p : Path) : List String := if p.absolute then [] else d.home

/-- The names of what a path leads to, if something is there. -/
def resolve (d : Disk) (p : Path) : Except Fault (List String) :=
  match d.walk (d.origin p) p.names with
  | .error e => .error e
  | .ok names => if p.slashEnd && !d.isDirectoryAt names then .error .notDirectory else .ok names

/-- The directory names and the last name of a path under which something new can be made. -/
def vacant (d : Disk) (p : Path) (slashAllowed : Bool) : Except Fault (List String × String) :=
  match p.names.getLast? with
  | none => .error .taken
  | some name =>
    match d.walk (d.origin p) p.names.dropLast with
    | .error e => .error e
    | .ok names =>
      if !d.isDirectoryAt names then .error .notDirectory
      else if name = "." || name = ".." then .error .taken
      else if p.slashEnd && !slashAllowed then .error .isDirectory
      else if Path.maxName < name.utf8ByteSize then .error .nameTooLong
      else if (d.entry? (names ++ [name])).isSome then .error .taken
      else .ok (names, name)

/-! ## Operations -/

/-- Adds an entry. -/
def addEntry (d : Disk) (names : List String) (e : Entry) : Disk :=
  { d with entries := d.entries ++ [(names, e)] }

/-- Makes an empty file where there is nothing yet; its number. -/
def create (d : Disk) (path : String) : Except Fault (Nat × Disk) :=
  match Path.parse path with
  | .error e => .error e
  | .ok p =>
    match d.vacant p false with
    | .error e => .error e
    | .ok (names, name) =>
      let number := d.contents.length
      .ok (number, { d.addEntry (names ++ [name]) (.file number) with
        contents := d.contents ++ [[]] })

/-- Makes a directory where there is nothing yet. -/
def makeDirectory (d : Disk) (path : String) : Except Fault Disk :=
  match Path.parse path with
  | .error e => .error e
  | .ok p =>
    match d.vacant p true with
    | .error e => .error e
    | .ok (names, name) => .ok (d.addEntry (names ++ [name]) .directory)

/-- Is there a directory at this path? -/
def hasDirectory (d : Disk) (path : String) : Bool :=
  match (Path.parse path).bind d.resolve with
  | .ok names => d.isDirectoryAt names
  | .error _ => false

/-- Makes a directory unless it is there; `again` handles a missing parent.  The disk comes with
the fault, if there is one. -/
def makeDirectoryWith (d : Disk) (path : String) (again : Unit → Disk × Option Fault) :
    Disk × Option Fault :=
  match d.makeDirectory path with
  | .ok d => (d, none)
  | .error .missing => again ()
  | .error e => (d, if d.hasDirectory path then none else some e)

/-- Makes a directory and whatever is missing above it, at most `depth` levels up. -/
def makeDirectoriesUpTo (d : Disk) (path : String) : Nat → Disk × Option Fault
  | 0 => (d, none)
  | depth + 1 =>
    if path.isEmpty then (d, none)
    else d.makeDirectoryWith path fun _ =>
      match makeDirectoriesUpTo d (Path.parentText path) depth with
      | (d, some e) => (d, some e)
      | (d, none) => d.makeDirectoryWith path fun _ => (d, some .missing)

/-- Makes a directory and whatever is missing above it; directories made before a fault stay.  Each
level up takes at least one character off the path. -/
def makeDirectories (d : Disk) (path : String) : Disk × Option Fault :=
  d.makeDirectoriesUpTo path (path.length + 1)

/-- The number of the file at a path, opened for appending.  A serial device is left to the channel
that reads it. -/
def openAppend (d : Disk) (path : String) : Except Fault Nat :=
  match Path.parse path with
  | .error e => .error e
  | .ok p =>
    match d.resolve p with
    | .error e => .error e
    | .ok names =>
      match d.entry? names with
      | some (.file number) => .ok number
      | some .directory => .error .isDirectory
      | some .terminal => .error .busy
      | none => .error .missing

/-- Finds out whether a serial device is at a path, or why none can be opened there. -/
def openTerminal (d : Disk) (path : String) : Except Fault Unit :=
  match Path.parse path with
  | .error .nulInPath => .error .invalidArgument
  | .error e => .error e
  | .ok p =>
    match d.resolve p with
    | .error e => .error e
    | .ok names =>
      match d.entry? names with
      | some .terminal => .ok ()
      | some (.file _) => .error .notTerminal
      | some .directory => .error .isDirectory
      | none => .error .missing

/-- The contents of a file by number; none for a number that no file has. -/
def bytes (d : Disk) (number : Nat) : List UInt8 := (d.contents[number]?).getD []

/-- The contents of the file at a path. -/
def read (d : Disk) (path : String) : Except Fault (List UInt8) :=
  match d.openAppend path with
  | .error e => .error e
  | .ok number => .ok (d.bytes number)

/-- Adds bytes at the end of a file. -/
def append (d : Disk) (number : Nat) (bs : List UInt8) : Disk :=
  { d with contents := d.contents.modify number (· ++ bs) }

/-- Replaces the contents of the file at a path, which is made if nothing is there. -/
def overwrite (d : Disk) (path : String) (bs : List UInt8) : Except Fault Disk :=
  match d.openAppend path with
  | .ok number => .ok { d with contents := d.contents.modify number fun _ => bs }
  | .error .missing =>
    match d.create path with
    | .error e => .error e
    | .ok (number, d) => .ok (d.append number bs)
  | .error e => .error e

/-- Removes the name of the file at a path; the file itself stays for those that have it open. -/
def remove (d : Disk) (path : String) : Except Fault Disk :=
  match Path.parse path with
  | .error e => .error e
  | .ok p =>
    match d.resolve p with
    | .error e => .error e
    | .ok names =>
      match d.entry? names with
      | some (.file _) => .ok { d with entries := d.entries.filter fun e => e.1 != names }
      | _ => .error .isDirectory

/-! ## Listing -/

/-- Puts a file, or a directory if the path ends in a slash, on the disk, and the directories above
it; nothing if that is impossible. -/
def place (d : Disk) (path : String) (bs : List UInt8) : Disk :=
  if path.toList.getLast? == some '/' then (d.makeDirectories path).1
  else
    let d := (d.makeDirectories (Path.parentText path)).1
    match d.overwrite path bs with
    | .ok d => d
    | .error _ => d

/-- The disk with these files and directories. -/
def ofFiles (files : List (String × List UInt8)) : Disk :=
  files.foldl (fun d f => d.place f.1 f.2) empty

/-- Puts a serial device on the disk; nothing if that is impossible. -/
def placeTerminal (d : Disk) (path : String) : Disk :=
  match d.vacant (Path.ofString path) false with
  | .ok (names, name) => d.addEntry (names ++ [name]) .terminal
  | .error _ => d

/-- The path from the working directory to what these names stand for, if it is below. -/
def pathBelow? (d : Disk) (names : List String) : Option String :=
  if d.home.isPrefixOf names && d.home.length < names.length then
    some ("/".intercalate (names.drop d.home.length))
  else none

/-- An entry as a listing shows it: a directory with a slash at the end and no contents. -/
def listed? (d : Disk) (e : List String × Entry) : Option (String × Option (List UInt8)) :=
  (d.pathBelow? e.1).bind fun path =>
    match e.2 with
    | .directory => some (path ++ "/", none)
    | .file number => some (path, some (d.bytes number))
    | .terminal => none

/-- The entries below the working directory with their contents, in ascending order of their
paths. -/
def listing (d : Disk) : List (String × Option (List UInt8)) :=
  (d.entries.filterMap d.listed?).mergeSort fun a b => !(b.1 < a.1)

end Disk
end TelemetryLog
