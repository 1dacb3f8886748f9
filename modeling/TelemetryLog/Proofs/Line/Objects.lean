import TelemetryLog.Proofs.Json.Meaning
import TelemetryLog.Proofs.Line.CutOff

/-!
# Which lines are records

A line is judged in two steps: by the braces at its two ends, and by the reader of objects.  The
first step never disagrees with the second (`isBraced_of_objectText`), and the braces leave no room
for the space that the reader would take behind an object (`readObject?_of_isBraced_iff`).  So a
line is a record exactly if what is left of it without blanks is an object of the grammar
(`read_iff_objectText`).

Blanks at the ends of a line are the characters with the Unicode property, and there are more of
them than there are between the tokens of an object.  So a line may begin with a no-break space and
be a record, but an object with one in it, outside its texts, is malformed.

Malformed is what stands in braces and is no object of the grammar.  This includes texts that would
be JSON elsewhere: objects that are nested too deep, and inner objects that begin with the key for
numbers and spell none.
-/

set_option autoImplicit false

namespace TelemetryLog
namespace Line

open Json (ObjectText IsSpace readObject?)

variable {cs : List Char} {kept : List (String × Json)} {p : Payload}

/-- An object stands in braces. -/
theorem isBraced_of_objectText (h : ObjectText cs kept) : isBraced cs = true := by
  cases h
  rw [isBraced_iff, ← List.cons_append, List.getLast?_concat]
  exact ⟨rfl, rfl⟩

/-- Between braces there is no space behind an object. -/
theorem readObject?_of_isBraced_iff (h : isBraced cs = true) :
    readObject? cs = some kept ↔ ObjectText cs kept := by
  constructor
  · intro hread
    obtain ⟨object, gap, rfl, hobject, hgap⟩ := Json.readObject?_eq_some_iff.1 hread
    obtain ⟨-, hlast⟩ := isBraced_iff.1 h
    rcases List.eq_nil_or_concat gap with rfl | ⟨gap, c, rfl⟩
    · rwa [List.append_nil]
    · rw [List.concat_eq_append, ← List.append_assoc, List.getLast?_concat] at hlast
      cases hlast
      exact absurd (hgap '\x7d' (by simp)) (by decide)
  · intro hobject
    exact Json.readObject?_eq_some_iff.2
      ⟨cs, [], (List.append_nil cs).symm, hobject, Json.isSpace_nil⟩

theorem ofTrimmed_eq_chatter_iff : ofTrimmed cs = .chatter ↔ isBraced cs = false := by
  rw [ofTrimmed]
  split
  · split <;> simp [*]
  · simp [*]

theorem ofTrimmed_eq_payload_iff : ofTrimmed cs = .payload p ↔ ObjectText cs p.members := by
  rw [ofTrimmed]
  split
  · rw [← readObject?_of_isBraced_iff ‹_›]
    split
    · rename_i members hread
      rw [hread, Option.some.injEq, Line.payload.injEq]
      constructor
      · rintro rfl
        rfl
      · rintro rfl
        rfl
    · rename_i hread
      simp [hread]
  · rename_i hbraced
    constructor
    · rintro ⟨⟩
    · intro hobject
      exact absurd (isBraced_of_objectText hobject) hbraced

theorem ofTrimmed_eq_malformed_iff :
    ofTrimmed cs = .malformed ↔ isBraced cs = true ∧ ∀ p : Payload, ¬ObjectText cs p.members := by
  constructor
  · intro h
    refine ⟨?_, fun p hobject => ?_⟩
    · cases hbraced : isBraced cs with
      | true => rfl
      | false =>
        rw [ofTrimmed_eq_chatter_iff.2 hbraced] at h
        cases h
    · rw [ofTrimmed_eq_payload_iff.2 hobject] at h
      cases h
  · rintro ⟨hbraced, hnone⟩
    cases h : ofTrimmed cs with
    | payload p => exact absurd (ofTrimmed_eq_payload_iff.1 h) (hnone p)
    | chatter =>
      rw [ofTrimmed_eq_chatter_iff.1 h] at hbraced
      cases hbraced
    | malformed => rfl

/-- What a record is made of. -/
theorem exists_members_of_read {line : String} (h : read line = .payload p) :
    ∃ members cs, Text.trim line.toList = '\x7b' :: (cs ++ ['\x7d']) ∧
      Json.MembersText 1 members cs ∧ Json.Keeps (members.map Json.Member.entry) p.members := by
  have hobject := ofTrimmed_eq_payload_iff.1 h
  generalize Text.trim line.toList = object at hobject
  obtain ⟨hspelled, hitems, hcs, hkept⟩ := hobject
  exact ⟨_, _, rfl, ⟨hspelled, hitems, hcs⟩, hkept⟩

/-- **A line is a record exactly if it is an object of the grammar** without the blanks around it,
and then with the members that the grammar gives it.  It is no record at all exactly if it does not
stand in braces, and malformed in every other case. -/
theorem read_iff_objectText (line : String) :
    (read line = .chatter ↔
      (Text.trim line.toList).head? ≠ some '\x7b' ∨
        (Text.trim line.toList).getLast? ≠ some '\x7d') ∧
      (∀ p : Payload, read line = .payload p ↔ ObjectText (Text.trim line.toList) p.members) ∧
      (read line = .malformed ↔
        (Text.trim line.toList).head? = some '\x7b' ∧
          (Text.trim line.toList).getLast? = some '\x7d' ∧
          ∀ p : Payload, ¬ObjectText (Text.trim line.toList) p.members) := by
  refine ⟨?_, fun p => ofTrimmed_eq_payload_iff, ?_⟩
  · rw [read, ofTrimmed_eq_chatter_iff, Bool.eq_false_iff, Ne, isBraced_iff,
      Decidable.not_and_iff_or_not]
  · rw [read, ofTrimmed_eq_malformed_iff, isBraced_iff, and_assoc]

end Line
end TelemetryLog
