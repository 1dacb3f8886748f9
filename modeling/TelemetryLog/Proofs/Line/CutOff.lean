import TelemetryLog.Line
import TelemetryLog.Proofs.Json.Nesting
import TelemetryLog.Proofs.Text.Blank

/-!
# Lines that break off

A device may stop in the middle of a line, and what it sends next may then stand behind the part
that was sent.  Neither the part alone nor the two together are ever taken for a record
(`cut_off_not_payload`).

The statement is about two lines that are records without blanks at their ends, the first of them
cut anywhere.  A blank in front would make a difference: the part could be that blank, and then the
two together are the second line.

The first half is short.  If the part were a record, only space could follow it, but the last
character of the whole line is a brace.  The second half is the theorem on glued texts of
`Proofs.Json.Nesting`: the part leaves the reader inside a container, inside a text, or at the end
of an object, and a text that is an object by itself does not lead to the end from there.
-/

set_option autoImplicit false

namespace TelemetryLog
namespace Line

variable {cs : List Char}

theorem isBraced_iff :
    isBraced cs = true ↔ cs.head? = some '\x7b' ∧ cs.getLast? = some '\x7d' := by
  rw [isBraced, Bool.and_eq_true, beq_iff_eq, beq_iff_eq]

/-- Braces are no blanks, so they stay when a text is trimmed. -/
theorem trim_of_isBraced (h : isBraced cs = true) : Text.trim cs = cs := by
  obtain ⟨hhead, hlast⟩ := isBraced_iff.1 h
  exact Text.trim_eq_self hhead (by decide) hlast (by decide)

theorem isPayload_ofTrimmed_iff :
    (ofTrimmed cs).isPayload = true ↔
      isBraced cs = true ∧ ∃ members, Json.Reader.run .start cs = some (.done members) := by
  rw [ofTrimmed]
  by_cases hbraced : isBraced cs = true
  · rw [if_pos hbraced, Json.readObject?]
    cases hrun : Json.Reader.run .start cs with
    | none => simp [isPayload]
    | some s => cases s <;> simp [isPayload, hbraced]
  · rw [if_neg hbraced]
    simp [isPayload, hbraced]

theorem not_isPayload_iff {l : Line} :
    l.isPayload = false ↔ (l = .chatter ∨ l = .malformed) := by
  cases l <;> simp [isPayload]

/-- A text in braces that is no object is malformed. -/
theorem ofTrimmed_eq_malformed (hbraced : isBraced cs = true)
    (h : ∀ members, Json.Reader.run .start cs ≠ some (.done members)) :
    ofTrimmed cs = .malformed := by
  have hnot : (ofTrimmed cs).isPayload = false := by
    rw [Bool.eq_false_iff, Ne, isPayload_ofTrimmed_iff]
    rintro ⟨-, members, hrun⟩
    exact h members hrun
  rcases not_isPayload_iff.1 hnot with hchatter | hmalformed
  · rw [ofTrimmed, if_pos hbraced] at hchatter
    split at hchatter <;> cases hchatter
  · exact hmalformed

/-- A part of an object is none, even if blanks are taken off its end. -/
theorem not_isPayload_of_part {p r : List Char} {members : List (String × Json)} (hr : r ≠ [])
    (hbraced : isBraced (p ++ r) = true)
    (hrun : Json.Reader.run .start (p ++ r) = some (.done members)) :
    (ofTrimmed (Text.trim p)).isPayload = false := by
  rw [Bool.eq_false_iff, Ne, isPayload_ofTrimmed_iff]
  rintro ⟨hbraced', members', hrun'⟩
  obtain ⟨hhead, hlast⟩ := isBraced_iff.1 hbraced
  -- what has been taken off and what comes after the cut can only be space
  obtain ⟨tail, htail⟩ : Text.trim p <+: p := by
    cases p with
    | nil => cases (isBraced_iff.1 hbraced').1
    | cons c p =>
      cases hhead
      exact Text.trim_prefix rfl (by decide)
  rw [← htail, List.append_assoc, Json.Reader.run_append, hrun'] at hrun
  have hspace := Json.Reader.isSpace_of_run_done hrun
  -- but the last character is a brace
  rw [List.getLast?_append, List.getLast?_eq_some_getLast hr, Option.some_or,
    ← List.getLast?_eq_some_getLast hr] at hlast
  exact absurd (hspace _ (List.mem_append_right _ (List.mem_of_getLast? hlast))) (by decide)

/-- **A line that breaks off is no record**, and neither is what comes of it when another line
follows at once. -/
theorem cut_off_not_payload {p r s : String} (h₁ : (read (p ++ r)).isPayload = true)
    (ht₁ : Text.trim (p ++ r).toList = (p ++ r).toList) (h₂ : (read s).isPayload = true)
    (ht₂ : Text.trim s.toList = s.toList) :
    (r ≠ "" → read p = .chatter ∨ read p = .malformed) ∧
      (p ≠ "" → read (p ++ s) = .malformed) := by
  rw [read, ht₁, String.toList_append, isPayload_ofTrimmed_iff] at h₁
  rw [read, ht₂, isPayload_ofTrimmed_iff] at h₂
  obtain ⟨hbraced₁, members₁, hrun₁⟩ := h₁
  obtain ⟨hbraced₂, members₂, hrun₂⟩ := h₂
  constructor
  · intro hr
    exact not_isPayload_iff.1
      (not_isPayload_of_part (by simpa using hr) hbraced₁ hrun₁)
  · intro hp
    have hp' : p.toList ≠ [] := by simpa using hp
    have hbraced : isBraced (p.toList ++ s.toList) = true := by
      obtain ⟨hhead, -⟩ := isBraced_iff.1 hbraced₁
      obtain ⟨-, hlast⟩ := isBraced_iff.1 hbraced₂
      obtain ⟨c, cs, hcs⟩ := List.exists_cons_of_ne_nil hp'
      rw [hcs] at hhead ⊢
      rw [isBraced_iff, List.getLast?_append, hlast]
      exact ⟨hhead, rfl⟩
    rw [read, String.toList_append, trim_of_isBraced hbraced]
    exact ofTrimmed_eq_malformed hbraced fun _ =>
      Json.Reader.run_start_append_ne_done hp' hrun₂

/-- A line that breaks off inside a text, so that the quotes of the next line turn round. -/
theorem cut_off_not_payload_in_text :
    (read ("\x7b\"a\":[1,\"x" ++ "\"]\x7d")).isPayload = true ∧
      Text.trim ("\x7b\"a\":[1,\"x" ++ "\"]\x7d").toList =
        ("\x7b\"a\":[1,\"x" ++ "\"]\x7d").toList ∧
      (read "\x7b\",\":0\x7d").isPayload = true ∧
      Text.trim "\x7b\",\":0\x7d".toList = "\x7b\",\":0\x7d".toList ∧
      (read "\x7b\"a\":[1,\"x" = .chatter ∨ read "\x7b\"a\":[1,\"x" = .malformed) ∧
      read ("\x7b\"a\":[1,\"x" ++ "\x7b\",\":0\x7d") = .malformed := by
  have h₁ : (read ("\x7b\"a\":[1,\"x" ++ "\"]\x7d")).isPayload = true := by decide +kernel
  have ht₁ : Text.trim ("\x7b\"a\":[1,\"x" ++ "\"]\x7d").toList =
      ("\x7b\"a\":[1,\"x" ++ "\"]\x7d").toList := by decide +kernel
  have h₂ : (read "\x7b\",\":0\x7d").isPayload = true := by decide +kernel
  have ht₂ : Text.trim "\x7b\",\":0\x7d".toList = "\x7b\",\":0\x7d".toList := by decide +kernel
  obtain ⟨hpart, hglued⟩ := cut_off_not_payload h₁ ht₁ h₂ ht₂
  exact ⟨h₁, ht₁, h₂, ht₂, hpart (by decide), hglued (by decide)⟩

end Line
end TelemetryLog
