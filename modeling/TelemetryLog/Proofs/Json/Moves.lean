import TelemetryLog.Json.Reader

/-!
# What one character does

`Move s c t` lists the moves of the machine: each constructor is one thing that a character can do
in a state.  The list is exact (`step_eq_some_iff`), so whatever is said of the machine is said of
these moves, in either direction, and nothing else looks into `step`.

The tests that `step` makes one after the other have become conditions of the moves, so the moves
have no order.  The price is that they are not told apart by their shape: a state and a character
may match the patterns of several of them, and it is their conditions that exclude each other.
Nothing depends on that here, since a move is a step and a step has one result.

Only `Move.bareEnd` refers to another move.  A word or a number has no character of its own at its
end, so what ends it is a character that its container takes in the same step.

Two directions are used of the same equivalence.  What every text does to the machine is proved by
cases over the moves (`Proofs.Json.Nesting`, `Proofs.Json.Soundness`).  That some text leads
somewhere is shown by naming the moves that do it (`Proofs.Json.Completeness`, with
`run_cons_of_move`).
-/

set_option autoImplicit false

namespace TelemetryLog
namespace Json
namespace Reader

/-- Does the machine stand between two tokens? -/
def State.betweenTokens : State → Bool
  | .value .. | .key .. | .colon .. | .afterItem .. | .afterMember .. | .done .. => true
  | .start | .keyBody .. | .textBody .. | .bare .. => false

/-- The moves of the machine. -/
inductive Move : State → Char → State → Prop
  /-- The outermost object begins. -/
  | start : Move .start '\x7b' (.key true [] [])
  /-- Space between tokens changes nothing. -/
  | space {s : State} {c : Char} (hs : s.betweenTokens = true) (hc : isSpace c = true) : Move s c s
  /-- A text begins. -/
  | text {first : Bool} {stack : List Frame} :
      Move (.value first stack) '"' (.textBody false [] stack)
  /-- An inner object begins. -/
  | object {first : Bool} {stack : List Frame} (h : stack.length < maxDepth) :
      Move (.value first stack) '\x7b' (.key true [] stack)
  /-- An array begins. -/
  | array {first : Bool} {stack : List Frame} (h : stack.length < maxDepth) :
      Move (.value first stack) '[' (.value true (.array [] :: stack))
  /-- An array ends directly behind its bracket. -/
  | noItem {items : List Json} {stack : List Frame} {s : State}
      (h : closeArray items stack = some s) : Move (.value true (.array items :: stack)) ']' s
  /-- A bare token begins. -/
  | bare {first : Bool} {stack : List Frame} {c : Char} (hc : isBare c = true) :
      Move (.value first stack) c (.bare [c] stack)
  /-- A key begins. -/
  | key {first : Bool} {members : List (String × Json)} {stack : List Frame} :
      Move (.key first members stack) '"' (.keyBody false [] members stack)
  /-- An object ends directly behind its brace. -/
  | noMember {members : List (String × Json)} {stack : List Frame} {s : State}
      (h : closeObject members stack = some s) : Move (.key true members stack) '\x7d' s
  /-- A character of a key behind a backslash. -/
  | keyEscaped {body : List Char} {members : List (String × Json)} {stack : List Frame} {c : Char} :
      Move (.keyBody true body members stack) c (.keyBody false (c :: body) members stack)
  /-- Another character of a key. -/
  | keyChar {body : List Char} {members : List (String × Json)} {stack : List Frame} {c : Char}
      (hc : c ≠ '"') :
      Move (.keyBody false body members stack) c (.keyBody (c = '\\') (c :: body) members stack)
  /-- A key ends. -/
  | keyEnd {body cs : List Char} {members : List (String × Json)} {stack : List Frame}
      (h : unescape? body.reverse = some cs) :
      Move (.keyBody false body members stack) '"' (.colon members (String.ofList cs) stack)
  /-- The colon behind a key. -/
  | colon {members : List (String × Json)} {key : String} {stack : List Frame} :
      Move (.colon members key stack) ':' (.value false (.member members key :: stack))
  /-- A character of a text behind a backslash. -/
  | textEscaped {body : List Char} {stack : List Frame} {c : Char} :
      Move (.textBody true body stack) c (.textBody false (c :: body) stack)
  /-- Another character of a text. -/
  | textChar {body : List Char} {stack : List Frame} {c : Char} (hc : c ≠ '"') :
      Move (.textBody false body stack) c (.textBody (c = '\\') (c :: body) stack)
  /-- A text ends. -/
  | textEnd {body cs : List Char} {stack : List Frame} {s : State}
      (h : unescape? body.reverse = some cs)
      (hs : deliver (.text (String.ofList cs)) stack = some s) :
      Move (.textBody false body stack) '"' s
  /-- Another character of a bare token. -/
  | bareChar {body : List Char} {stack : List Frame} {c : Char} (hc : isBare c = true) :
      Move (.bare body stack) c (.bare (c :: body) stack)
  /-- A bare token ends before the character, which its container takes. -/
  | bareEnd {body : List Char} {stack : List Frame} {c : Char} {v : Json} {s t : State}
      (hc : isBare c = false) (hv : scalar? body.reverse = some v) (hs : deliver v stack = some s)
      (h : Move s c t) : Move (.bare body stack) c t
  /-- A comma behind an item. -/
  | nextItem {items : List Json} {stack : List Frame} :
      Move (.afterItem items stack) ',' (.value false (.array items :: stack))
  /-- An array ends behind its last item. -/
  | lastItem {items : List Json} {stack : List Frame} {s : State}
      (h : closeArray items stack = some s) : Move (.afterItem items stack) ']' s
  /-- A comma behind a member. -/
  | nextMember {members : List (String × Json)} {stack : List Frame} :
      Move (.afterMember members stack) ',' (.key false members stack)
  /-- An object ends behind its last member. -/
  | lastMember {members : List (String × Json)} {stack : List Frame} {s : State}
      (h : closeObject members stack = some s) : Move (.afterMember members stack) '\x7d' s

variable {s t : State} {c : Char} {stack : List Frame} {v : Json}

/-! ## There are no other moves -/

theorem move_of_stepValue {first : Bool} (h : stepValue first stack c = some t) :
    Move (.value first stack) c t := by
  unfold stepValue at h
  split at h
  · cases h
    exact .space rfl ‹_›
  split at h
  · obtain rfl := ‹c = _›
    cases h
    exact .text
  split at h
  · obtain rfl := ‹c = _›
    split at h
    · cases h
      exact .object ‹_›
    · cases h
  split at h
  · obtain rfl := ‹c = _›
    split at h
    · cases h
      exact .array ‹_›
    · cases h
  split at h
  · obtain rfl := ‹c = _›
    split at h
    · exact .noItem h
    · cases h
  split at h
  · cases h
    exact .bare ‹_›
  · cases h

theorem move_of_stepKey {first : Bool} {members : List (String × Json)}
    (h : stepKey first members stack c = some t) : Move (.key first members stack) c t := by
  rw [stepKey] at h
  split at h
  · cases h
    exact .space rfl ‹_›
  split at h
  · obtain rfl := ‹c = _›
    cases h
    exact .key
  split at h
  · obtain rfl := ‹c = _›
    cases first with
    | true => exact .noMember h
    | false => cases h
  · cases h

theorem move_of_stepAfterItem {items : List Json} (h : stepAfterItem items stack c = some t) :
    Move (.afterItem items stack) c t := by
  rw [stepAfterItem] at h
  split at h
  · cases h
    exact .space rfl ‹_›
  split at h
  · obtain rfl := ‹c = _›
    cases h
    exact .nextItem
  split at h
  · obtain rfl := ‹c = _›
    exact .lastItem h
  · cases h

theorem move_of_stepAfterMember {members : List (String × Json)}
    (h : stepAfterMember members stack c = some t) : Move (.afterMember members stack) c t := by
  rw [stepAfterMember] at h
  split at h
  · cases h
    exact .space rfl ‹_›
  split at h
  · obtain rfl := ‹c = _›
    cases h
    exact .nextMember
  split at h
  · obtain rfl := ‹c = _›
    exact .lastMember h
  · cases h

theorem move_of_stepAfter (h : stepAfter c s = some t) : Move s c t := by
  cases s with
  | afterItem items stack => exact move_of_stepAfterItem h
  | afterMember members stack => exact move_of_stepAfterMember h
  | _ => cases h

theorem move_of_endBare {body : List Char} (hc : isBare c = false)
    (hs : endBare body stack = some s) (h : stepAfter c s = some t) :
    Move (.bare body stack) c t := by
  rw [endBare] at hs
  split at hs
  · cases hs
  · exact .bareEnd hc ‹_› hs (move_of_stepAfter h)

theorem move_of_endKey {body : List Char} {members : List (String × Json)}
    (h : endKey body members stack = some t) : Move (.keyBody false body members stack) '"' t := by
  rw [endKey] at h
  split at h
  · cases h
  · cases h
    exact .keyEnd ‹_›

theorem move_of_endText {body : List Char} (h : endText body stack = some t) :
    Move (.textBody false body stack) '"' t := by
  rw [endText] at h
  split at h
  · cases h
  · exact .textEnd ‹_› h

theorem move_of_step (h : step s c = some t) : Move s c t := by
  cases s with
  | start =>
    rw [step] at h
    split at h
    · obtain rfl := ‹c = _›
      cases h
      exact .start
    · cases h
  | value first stack => exact move_of_stepValue h
  | key first members stack => exact move_of_stepKey h
  | keyBody escaped body members stack =>
    cases escaped with
    | true =>
      cases h
      exact .keyEscaped
    | false =>
      rw [step, if_neg (by decide)] at h
      split at h
      · obtain rfl := ‹c = _›
        exact move_of_endKey h
      · cases h
        exact .keyChar ‹_›
  | colon members key stack =>
    rw [step] at h
    split at h
    · cases h
      exact .space rfl ‹_›
    split at h
    · obtain rfl := ‹c = _›
      cases h
      exact .colon
    · cases h
  | textBody escaped body stack =>
    cases escaped with
    | true =>
      cases h
      exact .textEscaped
    | false =>
      rw [step, if_neg (by decide)] at h
      split at h
      · obtain rfl := ‹c = _›
        exact move_of_endText h
      · cases h
        exact .textChar ‹_›
  | bare body stack =>
    rw [step] at h
    split at h
    · cases h
      exact .bareChar ‹_›
    split at h
    · cases h
    · exact move_of_endBare (Bool.eq_false_iff.2 ‹_›) ‹_› h
  | afterItem items stack => exact move_of_stepAfterItem h
  | afterMember members stack => exact move_of_stepAfterMember h
  | done members =>
    rw [step] at h
    split at h
    · cases h
      exact .space rfl ‹_›
    · cases h

/-! ## All of them are made -/

theorem ne_of_isBare {d : Char} (hc : isBare c = true) (hd : isBare d = false) : c ≠ d := by
  rintro rfl
  rw [hd] at hc
  cases hc

theorem not_isBare_of_isSpace (h : isSpace c = true) : isBare c = false := by
  rcases isSpace_iff.1 h with rfl | rfl | rfl | rfl <;> decide

theorem step_value_of_isBare {first : Bool} (h : isBare c = true) :
    step (.value first stack) c = some (.bare [c] stack) := by
  have hspace : ¬isSpace c = true := by
    intro hc
    rw [not_isBare_of_isSpace hc] at h
    cases h
  unfold step stepValue
  dsimp only
  rw [if_neg hspace, if_neg (ne_of_isBare h (by decide)), if_neg (ne_of_isBare h (by decide)),
    if_neg (ne_of_isBare h (by decide)), if_neg (ne_of_isBare h (by decide)), if_pos h]

theorem stepAfter_of_deliver (h : deliver v stack = some s) : stepAfter c s = step s c := by
  cases stack with
  | nil => cases h
  | cons f stack => cases f <;> cases h <;> rfl

/-- A bare token that has ended is out of the way. -/
theorem step_bare_of_deliver {body : List Char} (hc : isBare c = false)
    (hv : scalar? body.reverse = some v) (hs : deliver v stack = some s) :
    step (.bare body stack) c = step s c := by
  rw [step, if_neg (by rw [hc]; decide), endBare, hv]
  dsimp only
  rw [hs]
  exact stepAfter_of_deliver hs

theorem step_of_space (hs : s.betweenTokens = true) (hc : isSpace c = true) :
    step s c = some s := by
  cases s with
  | start => cases hs
  | keyBody => cases hs
  | textBody => cases hs
  | bare => cases hs
  | _ => exact if_pos hc

theorem step_of_move (h : Move s c t) : step s c = some t := by
  induction h with
  | start => rfl
  | space hs hc => exact step_of_space hs hc
  | text => rfl
  | object h => exact if_pos h
  | array h => exact if_pos h
  | noItem h => exact h
  | bare hc => exact step_value_of_isBare hc
  | key => rfl
  | noMember h => exact h
  | keyEscaped => rfl
  | keyChar hc => exact if_neg hc
  | keyEnd h =>
    rw [step, if_neg (by decide), if_pos rfl, endKey, h]
  | colon => rfl
  | textEscaped => rfl
  | textChar hc => exact if_neg hc
  | textEnd h hs =>
    rw [step, if_neg (by decide), if_pos rfl, endText, h]
    exact hs
  | bareChar hc => exact if_pos hc
  | bareEnd hc hv hs _ ih => exact (step_bare_of_deliver hc hv hs).trans ih
  | nextItem => rfl
  | lastItem h => exact h
  | nextMember => rfl
  | lastMember h => exact h

/-- **A step is one of the moves.** -/
theorem step_eq_some_iff : step s c = some t ↔ Move s c t :=
  ⟨move_of_step, step_of_move⟩

/-! ## Runs -/

theorem run_cons_of_move (h : Move s c t) (cs : List Char) : run s (c :: cs) = run t cs := by
  rw [run_cons, step_eq_some_iff.2 h, Option.bind_some]

theorem exists_move_of_run_cons {cs : List Char} (h : run s (c :: cs) = some t) :
    ∃ s', Move s c s' ∧ run s' cs = some t := by
  rw [run_cons] at h
  obtain ⟨s', hs', h⟩ := Option.bind_eq_some_iff.1 h
  exact ⟨s', step_eq_some_iff.1 hs', h⟩

/-- An object ends: the outermost one ends the text, an inner one is handed over. -/
theorem closeObject_eq_some {members : List (String × Json)}
    (h : closeObject members stack = some s) :
    stack = [] ∧ s = .done members ∨
      ∃ v, nested? members.reverse = some v ∧ deliver v stack = some s := by
  unfold closeObject at h
  split at h
  · exact .inl ⟨rfl, (Option.some.inj h).symm⟩
  split at h
  · cases h
  · exact .inr ⟨_, ‹_›, h⟩

end Reader
end Json
end TelemetryLog
