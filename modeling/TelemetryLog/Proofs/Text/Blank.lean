import TelemetryLog.Text.Blank

/-!
# Trimming

A text whose first and last characters are not blank is what is left of it when it is trimmed
(`trim_eq_self`), and of a text that does not begin with a blank a first part is left
(`trim_prefix`).

Conversely every text is what is left of it with blanks on both sides (`exists_eq_trim`), and blanks
around a text without any at its ends are all that is taken off (`trim_around`).  So a statement may
speak of a text and the blanks around it where the program trims.
-/

set_option autoImplicit false

namespace TelemetryLog
namespace Text

variable {cs : List Char} {c d : Char}

theorem trimLeft_of_head? (hc : cs.head? = some c) (h : isBlank c = false) : trimLeft cs = cs := by
  obtain ⟨rest, rfl⟩ := List.head?_eq_some_iff.1 hc
  rw [trimLeft, List.dropWhile_cons_of_neg (by rw [h]; decide)]

theorem trimRight_of_getLast? (hc : cs.getLast? = some c) (h : isBlank c = false) :
    trimRight cs = cs := by
  have hreverse : trimLeft cs.reverse = cs.reverse :=
    trimLeft_of_head? (by rw [List.head?_reverse, hc]) h
  rw [trimRight, ← trimLeft, hreverse, List.reverse_reverse]

/-- A text without blanks at its two ends stays as it is. -/
theorem trim_eq_self (hc : cs.head? = some c) (hblank : isBlank c = false)
    (hd : cs.getLast? = some d) (hblank' : isBlank d = false) : trim cs = cs := by
  rw [trim, trimLeft_of_head? hc hblank, trimRight_of_getLast? hd hblank']

/-- Blanks around such a text are taken off, and nothing else. -/
theorem trim_around {before after : List Char} (hbefore : ∀ b ∈ before, isBlank b = true)
    (hafter : ∀ b ∈ after, isBlank b = true) (hc : cs.head? = some c) (hblank : isBlank c = false)
    (hd : cs.getLast? = some d) (hblank' : isBlank d = false) :
    trim (before ++ (cs ++ after)) = cs := by
  have hleft : trimLeft (before ++ (cs ++ after)) = cs ++ after := by
    rw [trimLeft, List.dropWhile_append_of_pos hbefore, ← trimLeft]
    exact trimLeft_of_head? (by rw [List.head?_append, hc]; rfl) hblank
  have hreverse : ∀ b ∈ after.reverse, isBlank b = true :=
    fun b hb => hafter b (List.mem_reverse.1 hb)
  rw [trim, hleft, trimRight, List.reverse_append, List.dropWhile_append_of_pos hreverse,
    ← trimRight]
  exact trimRight_of_getLast? hd hblank'

/-- Nothing but blanks is taken off. -/
theorem exists_eq_trim (cs : List Char) :
    ∃ before after, (∀ b ∈ before, isBlank b = true) ∧ (∀ b ∈ after, isBlank b = true) ∧
      cs = before ++ (trim cs ++ after) := by
  have hleft : cs = cs.takeWhile isBlank ++ trimLeft cs := List.takeWhile_append_dropWhile.symm
  have hright : trimLeft cs = trim cs ++ ((trimLeft cs).reverse.takeWhile isBlank).reverse := by
    rw [trim, trimRight, ← List.reverse_append, List.takeWhile_append_dropWhile,
      List.reverse_reverse]
  have hblank (ds : List Char) : ∀ b ∈ ds.takeWhile isBlank, isBlank b = true :=
    List.all_eq_true.1 List.all_takeWhile
  refine ⟨cs.takeWhile isBlank, ((trimLeft cs).reverse.takeWhile isBlank).reverse, hblank cs,
    fun b hb => hblank _ b (List.mem_reverse.1 hb), ?_⟩
  rw [← hright, ← hleft]

theorem trimRight_prefix (cs : List Char) : trimRight cs <+: cs := by
  have hsuffix := List.reverse_prefix.2 (List.dropWhile_suffix isBlank (l := cs.reverse))
  rwa [List.reverse_reverse] at hsuffix

/-- A text without a blank in front loses nothing there. -/
theorem trim_prefix (hc : cs.head? = some c) (h : isBlank c = false) : trim cs <+: cs := by
  rw [trim, trimLeft_of_head? hc h]
  exact trimRight_prefix cs

end Text
end TelemetryLog
