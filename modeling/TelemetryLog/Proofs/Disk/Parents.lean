import TelemetryLog.Proofs.Disk.Growth

/-!
# The directories that lead to a file

The names of `Path.parentText s` are the first names of `s`, and not all of them
(`exists_namesOf_parentText`).  So whatever a file's path leads through is there already, and
making the directories that lead to it changes nothing (`makeDirectories_parentText`).

This is what a log that is opened again needs: the directories above its file are made before the
file is opened, and if the file is there they must be there too.

Nearly all of the work is about texts.  A path may have slashes at its end, several in a row, and
dots among its names, and its parent is found by trimming characters from the end and not by
splitting it into names.  `parentText_cases` says what can be left: nothing, the root, or what
stands before some slash that has a name behind it.  Of a text the names are found by splitting at
slashes and dropping what is empty (`runs`), and splitting respects such a slash
(`runs_append_slash`).
-/

set_option autoImplicit false

namespace TelemetryLog
namespace Disk
namespace Path

/-! ## Cutting a text into names -/

theorem splitFrom_append_slash (run as bs : List Char) :
    splitFrom run (as ++ '/' :: bs) = splitFrom run as ++ splitFrom [] bs := by
  induction as generalizing run with
  | nil => rfl
  | cons a as ih =>
    rw [List.cons_append, splitFrom, splitFrom]
    split
    · rw [ih, List.cons_append]
    · exact ih _

/-- The names in a text, as lists of characters. -/
def runs (cs : List Char) : List (List Char) := (splitFrom [] cs).filter fun run => !run.isEmpty

theorem namesOf_eq (s : String) : namesOf s = (runs s.toList).map String.ofList := rfl

theorem names_ofString (s : String) : (ofString s).names = namesOf s := rfl

theorem runs_append_slash (as bs : List Char) : runs (as ++ '/' :: bs) = runs as ++ runs bs := by
  rw [runs, splitFrom_append_slash, List.filter_append]
  rfl

/-- A run that has begun is a name in the end. -/
theorem filter_splitFrom_ne_nil {run : List Char} (h : run ≠ []) (cs : List Char) :
    (splitFrom run cs).filter (fun run => !run.isEmpty) ≠ [] := by
  induction cs generalizing run with
  | nil => simp [splitFrom, h]
  | cons c cs ih =>
    rw [splitFrom]
    split
    · simp [h]
    · exact ih (List.cons_ne_nil _ _)

/-- A character that is no slash is in a name. -/
theorem runs_ne_nil {cs : List Char} {c : Char} (hc : c ≠ '/') (hmem : c ∈ cs) : runs cs ≠ [] := by
  induction cs with
  | nil => cases hmem
  | cons a as ih =>
    rw [runs, splitFrom]
    split
    · rename_i ha
      have hmem : c ∈ as := (List.mem_cons.1 hmem).resolve_left fun h => hc (h.trans ha)
      simpa [runs] using ih hmem
    · exact filter_splitFrom_ne_nil (List.cons_ne_nil _ _) as

/-! ## The parent -/

/-- What is trimmed is nothing, or reaches up to a slash. -/
theorem exists_append_trimEnd (cs : List Char) :
    ∃ cut, cs = cut ++ trimEnd cs ∧ (cut = [] ∨ ∃ front, cut = front ++ ['/']) := by
  fun_induction trimEnd cs with
  | case1 cs ih =>
    obtain ⟨cut, heq, hcut⟩ := ih
    refine ⟨'/' :: cut, by rw [List.cons_append, ← heq], .inr ?_⟩
    rcases hcut with rfl | ⟨front, rfl⟩
    · exact ⟨[], rfl⟩
    · exact ⟨'/' :: front, rfl⟩
  | case2 cs ih =>
    obtain ⟨cut, heq, hcut⟩ := ih
    refine ⟨'.' :: '/' :: cut, by rw [List.cons_append, List.cons_append, ← heq], .inr ?_⟩
    rcases hcut with rfl | ⟨front, rfl⟩
    · exact ⟨['.'], rfl⟩
    · exact ⟨'.' :: '/' :: front, rfl⟩
  | case3 cs => exact ⟨[], rfl, .inl rfl⟩

theorem head?_trimEnd_ne (cs : List Char) : (trimEnd cs).head? ≠ some '/' := by
  fun_induction trimEnd cs with
  | case1 cs ih => exact ih
  | case2 cs ih => exact ih
  | case3 cs h h' =>
    intro hhead
    obtain ⟨tail, rfl⟩ := List.head?_eq_some_iff.1 hhead
    exact h tail rfl

/-- What is left of a path for its parent is nothing, or all that stands before some slash with a
name after it. -/
theorem exists_eq_reverse_append (cs : List Char) :
    trimEnd ((trimEnd cs).dropWhile (· ≠ '/')) = [] ∨
      ∃ back c, cs.reverse =
          (trimEnd ((trimEnd cs).dropWhile (· ≠ '/'))).reverse ++ '/' :: back ∧
        c ∈ back ∧ c ≠ '/' := by
  obtain ⟨cut, hcut, -⟩ := exists_append_trimEnd cs
  have hhead := head?_trimEnd_ne cs
  generalize trimEnd cs = named at hcut hhead ⊢
  obtain ⟨gap, hgap, hslash⟩ := exists_append_trimEnd (named.dropWhile (· ≠ '/'))
  have hfront := head?_trimEnd_ne (named.dropWhile (· ≠ '/'))
  generalize trimEnd (named.dropWhile (· ≠ '/')) = front at hgap hfront ⊢
  by_cases hnil : front = []
  · exact .inl hnil
  refine .inr ?_
  have hnamed : named = named.takeWhile (· ≠ '/') ++ (gap ++ front) := by
    rw [← hgap, List.takeWhile_append_dropWhile]
  -- the name that is cut off comes first, because what is trimmed does not begin with a slash
  obtain ⟨c, name, hname⟩ : ∃ c name, named = c :: name := by
    cases named with
    | nil => simp [hnil] at hnamed
    | cons c name => exact ⟨c, name, rfl⟩
  have hc : c ≠ '/' := by
    rintro rfl
    exact hhead (by rw [hname]; rfl)
  have hmem : c ∈ named.takeWhile (· ≠ '/') := by
    rw [hname, List.takeWhile_cons_of_pos (by simpa using hc)]
    exact List.mem_cons_self
  rcases hslash with rfl | ⟨gap, rfl⟩
  · rw [List.nil_append] at hgap
    have hnot := List.head?_dropWhile_not (fun c => decide (c ≠ '/')) named
    rw [hgap] at hnot
    obtain ⟨a, as, rfl⟩ := List.exists_cons_of_ne_nil hnil
    simp at hnot hfront
    exact absurd hnot hfront
  · generalize named.takeWhile (· ≠ '/') = last at hnamed hmem
    refine ⟨gap.reverse ++ last.reverse ++ cut.reverse, c, ?_, by simp [hmem], hc⟩
    rw [hcut, hnamed]
    simp

/-- The parent of a path is empty, the root, or all that stands before some slash with a name after
it. -/
theorem parentText_cases (s : String) :
    parentText s = "" ∨ (s.toList.head? = some '/' ∧ parentText s = "/") ∨
      ∃ back c, s.toList = (parentText s).toList ++ '/' :: back ∧ parentText s ≠ "" ∧
        c ∈ back ∧ c ≠ '/' := by
  rw [parentText]
  rcases exists_eq_reverse_append s.toList.reverse with hfront | ⟨back, c, hback, hmem, hc⟩
  · simp only [hfront]
    by_cases hroot : s.toList.head? = some '/'
    · exact .inr (.inl ⟨hroot, by simp [hroot]⟩)
    · exact .inl (by simp [hroot])
  · rw [List.reverse_reverse] at hback
    generalize trimEnd ((trimEnd s.toList.reverse).dropWhile (· ≠ '/')) = front at hback ⊢
    by_cases hnil : front = []
    · subst hnil
      simp [hback]
    · have hfront : front.isEmpty = false := by simpa using hnil
      rw [hfront, Bool.false_and, if_neg Bool.false_ne_true]
      exact .inr (.inr ⟨back, c, by simpa using hback, by simpa using hnil, hmem, hc⟩)

/-- The names of the parent are the first names of a path, and not all of them. -/
theorem exists_namesOf_parentText {s : String} (hs : namesOf s ≠ []) :
    ∃ more, more ≠ [] ∧ namesOf s = namesOf (parentText s) ++ more := by
  rcases parentText_cases s with h | ⟨-, h⟩ | ⟨back, c, h, -, hmem, hc⟩
  · exact ⟨namesOf s, hs, by rw [h]; rfl⟩
  · exact ⟨namesOf s, hs, by rw [h]; rfl⟩
  · refine ⟨(runs back).map String.ofList, ?_, ?_⟩
    · exact fun hnil => runs_ne_nil hc hmem (List.map_eq_nil_iff.1 hnil)
    · rw [namesOf_eq, namesOf_eq, h, runs_append_slash, List.map_append]

theorem parse_eq_ok {s : String} {p : Path} (h : parse s = .ok p) :
    '\x00' ∉ s.toList ∧ s ≠ "" ∧ s.utf8ByteSize ≤ maxPath ∧ p = ofString s := by
  rw [parse] at h
  split at h
  · cases h
  · rename_i hnul
    split at h
    · cases h
    · rename_i hempty
      split at h
      · cases h
      · rename_i hlen
        cases h
        exact ⟨by simpa using hnul, by simpa using hempty, Nat.le_of_not_lt hlen, rfl⟩

/-- A path without names is the root. -/
theorem absolute_of_namesOf_eq_nil {s : String} (hs : s ≠ "") (h : namesOf s = []) :
    (ofString s).absolute = true := by
  obtain ⟨c, cs, hcons⟩ := List.exists_cons_of_ne_nil (show s.toList ≠ [] by simpa using hs)
  have hc : c = '/' := by
    by_cases hc : c = '/'
    · exact hc
    · have hruns := runs_ne_nil hc (show c ∈ s.toList by simp [hcons])
      exact absurd (List.map_eq_nil_iff.1 h) hruns
  rw [ofString, hcons, hc]
  rfl

/-- The parent of a path is a path with the same start, unless it is empty. -/
theorem parse_parentText {s : String} {p : Path} (h : parse s = .ok p) (hs : parentText s ≠ "") :
    parse (parentText s) = .ok (ofString (parentText s)) ∧
      (ofString (parentText s)).absolute = p.absolute := by
  obtain ⟨hnul, -, hlen, rfl⟩ := parse_eq_ok h
  rcases parentText_cases s with h | ⟨hroot, h⟩ | ⟨back, c, h, -, -, -⟩
  · exact absurd h hs
  · rw [h, ofString, ofString, hroot]
    exact ⟨rfl, rfl⟩
  · have hsplit : s = parentText s ++ String.ofList ('/' :: back) := by
      rw [← String.toList_inj, h, String.toList_append, String.toList_ofList]
    rw [h] at hnul
    have hlen' := congrArg String.utf8ByteSize hsplit
    rw [String.utf8ByteSize_append] at hlen'
    refine ⟨?_, ?_⟩
    · have hnul' : '\x00' ∉ (parentText s).toList := fun h => hnul (List.mem_append_left _ h)
      rw [parse, if_neg (by simpa using hnul'), if_neg (by simpa using hs), if_neg (by omega)]
    · obtain ⟨a, as, hcons⟩ := List.exists_cons_of_ne_nil (show (parentText s).toList ≠ [] by
        simpa using hs)
      rw [ofString, ofString, h, hcons]
      rfl

end Path

variable {d : Disk}

/-- A directory that is there does not have to be made. -/
theorem makeDirectoryWith_of_resolve {path : String} {p : Path} {names : List String}
    (hp : Path.parse path = .ok p) (hr : d.resolve p = .ok names)
    (hdir : d.isDirectoryAt names = true) (again : Unit → Disk × Option Fault) :
    d.makeDirectoryWith path again = (d, none) := by
  have hmake : d.makeDirectory path = .error .taken := by
    rw [makeDirectory, hp]
    simp only [vacant_of_walk (resolve_eq_ok_iff.1 hr).1 fun _ => rfl]
  have hthere : d.hasDirectory path = true := by
    rw [hasDirectory, hp]
    simp only [Except.bind, hr, hdir]
  rw [makeDirectoryWith, hmake]
  simp [hthere]

/-- **The directories that lead to a file are there**, so making them changes nothing. -/
theorem makeDirectories_parentText {path : String} {number : Nat}
    (h : d.openAppend path = .ok number) :
    d.makeDirectories (Path.parentText path) = (d, none) := by
  obtain ⟨p, names, hp, hr, he⟩ := openAppend_eq_ok_iff.1 h
  obtain ⟨hwalk, -⟩ := resolve_eq_ok_iff.1 hr
  rw [makeDirectories, makeDirectoriesUpTo]
  split
  · rfl
  · rename_i hempty
    obtain ⟨hparse, habs⟩ := Path.parse_parentText hp (by simpa using hempty)
    obtain ⟨-, hpath, -, rfl⟩ := Path.parse_eq_ok hp
    have hne : Path.namesOf path ≠ [] := by
      -- a path without names is the root, and that is no file
      intro hnil
      rw [Path.names_ofString, hnil, origin, Path.absolute_of_namesOf_eq_nil hpath hnil] at hwalk
      cases hwalk
      cases he
    obtain ⟨more, hmore, hsplit⟩ := Path.exists_namesOf_parentText hne
    rw [Path.names_ofString, hsplit] at hwalk
    obtain ⟨mid, hmid, hrest⟩ := walk_append_eq_ok_iff.1 hwalk
    obtain ⟨n, ns, rfl⟩ := List.exists_cons_of_ne_nil hmore
    have hdir := isDirectoryAt_of_walk_cons hrest
    have horigin : d.origin (Path.ofString (Path.parentText path)) =
        d.origin (Path.ofString path) := by
      rw [origin, origin, habs]
    rw [← horigin, ← Path.names_ofString] at hmid
    exact makeDirectoryWith_of_resolve hparse (resolve_eq_ok_iff.2 ⟨hmid, fun _ => hdir⟩) hdir _

end Disk
end TelemetryLog
