import TelemetryLog.Proofs.Json.Moves

/-!
# Quotes and brackets

Two things about the machine are decided by the characters alone, whatever the containers hold: on
which side of the quotes it stands, and how many containers are open (`Move.outside`,
`Move.inside`).  So two readings of one text, from different states, go together: if they start on
the same side of the quotes they stay there and keep their distance in depth (`Level.run`), and if
they start on different sides they stay on different sides (`Opposed.run`).

A text that is read from the start to its end leaves no container open and no quote either.  So
behind a text that breaks off, inside a text or not, it cannot lead to the end
(`run_start_append_ne_done`).

## How it goes

The two readings that are compared are of the second text: alone from the start, and behind the
first text from wherever that one broke off.

* If the first text breaks off outside quotes, the two stand on the same side.  The second reading
  has more containers open, by the same number throughout.  When the first is done the other is not,
  for a container is still open.
* If it breaks off inside quotes, every quote that begins a text for one reading ends one for the
  other.  When the first is done it is outside quotes, so the other is inside.

A backslash does not disturb this.  Outside quotes no move takes one, so where the two stand on
different sides neither is behind a backslash when a quote comes (`quoting_of_opposed`).

What the texts mean plays no part, so the argument holds for every key and every value.
-/

set_option autoImplicit false

namespace TelemetryLog
namespace Json
namespace Reader

/-- Outside texts, or inside one and then after a backslash or not. -/
def State.quoting : State → Option Bool
  | .keyBody escaped _ _ _ => some escaped
  | .textBody escaped _ _ => some escaped
  | _ => none

/-- How many containers are open. -/
def State.depth : State → Nat
  | .start => 0
  | .value _ stack => stack.length
  | .key _ _ stack => stack.length + 1
  | .keyBody _ _ _ stack => stack.length + 1
  | .colon _ _ stack => stack.length + 1
  | .textBody _ _ stack => stack.length
  | .bare _ stack => stack.length
  | .afterItem _ stack => stack.length + 1
  | .afterMember _ stack => stack.length + 1
  | .done _ => 0

/-- How many containers the character opens outside texts. -/
def opened (c : Char) : Nat := if c = '\x7b' ∨ c = '[' then 1 else 0

/-- How many containers the character closes outside texts. -/
def closed (c : Char) : Nat := if c = '\x7d' ∨ c = ']' then 1 else 0

/-- A container is open, or the text is at its end. -/
def State.underway (s : State) : Prop := 0 < s.depth ∨ ∃ members, s = .done members

variable {s s' t t' : State} {c : Char} {stack : List Frame}

/-! ## One character -/

theorem quoting_of_betweenTokens (h : s.betweenTokens = true) : s.quoting = none := by
  cases s with
  | keyBody => cases h
  | textBody => cases h
  | _ => rfl

theorem of_deliver {v : Json} (h : deliver v stack = some s) :
    s.quoting = none ∧ s.depth = stack.length ∧ s.underway := by
  cases stack with
  | nil => cases h
  | cons f stack =>
    cases f <;> cases h <;> exact ⟨rfl, rfl, .inl (Nat.succ_pos _)⟩

theorem of_closeObject {members : List (String × Json)} (h : closeObject members stack = some s) :
    s.quoting = none ∧ s.depth = stack.length ∧ s.underway := by
  rcases closeObject_eq_some h with ⟨rfl, rfl⟩ | ⟨v, -, hv⟩
  · exact ⟨rfl, rfl, .inr ⟨_, rfl⟩⟩
  · exact of_deliver hv

/-- What a character outside texts does to quotes and containers. -/
structure Shifts (s : State) (c : Char) (s' : State) : Prop where
  /-- It is no backslash. -/
  ne : c ≠ '\\'
  /-- Only a quote leads into a text. -/
  quoting : s'.quoting = if c = '"' then some false else none
  /-- Only brackets open and close containers. -/
  depth : s'.depth + closed c = s.depth + opened c
  /-- The last container is closed by the end of the text only. -/
  underway : 0 < s.depth → s'.underway

/-- A character that is no quote, no backslash and no bracket. -/
structure Plain (c : Char) : Prop where
  /-- It is no quote. -/
  quote : c ≠ '"'
  /-- It is no backslash. -/
  backslash : c ≠ '\\'
  /-- It opens nothing. -/
  opened : opened c = 0
  /-- It closes nothing. -/
  closed : closed c = 0

theorem plain_of_isSpace (h : isSpace c = true) : Plain c := by
  rcases isSpace_iff.1 h with rfl | rfl | rfl | rfl <;> exact ⟨by decide, by decide, rfl, rfl⟩

theorem plain_of_isBare (h : isBare c = true) : Plain c := by
  refine ⟨ne_of_isBare h (by decide), ne_of_isBare h (by decide), if_neg ?_, if_neg ?_⟩
  · rintro (hc | hc)
    · exact ne_of_isBare h (by decide) hc
    · exact ne_of_isBare h (by decide) hc
  · rintro (hc | hc)
    · exact ne_of_isBare h (by decide) hc
    · exact ne_of_isBare h (by decide) hc

theorem shifts_plain (hc : Plain c) (hs' : s'.quoting = none) (hdepth : s'.depth = s.depth)
    (hunderway : 0 < s.depth → s'.underway) : Shifts s c s' :=
  ⟨hc.backslash, by rw [if_neg hc.quote, hs'], by rw [hdepth, hc.opened, hc.closed], hunderway⟩

theorem shifts_close {depth : Nat} (hc : c = ']' ∨ c = '\x7d') (hdepth : s.depth = depth + 1)
    (hs' : s'.quoting = none ∧ s'.depth = depth ∧ s'.underway) : Shifts s c s' := by
  obtain ⟨hquoting, hdepth', hunderway⟩ := hs'
  rcases hc with rfl | rfl
  · exact ⟨by decide, hquoting, by rw [hdepth, hdepth']; rfl, fun _ => hunderway⟩
  · exact ⟨by decide, hquoting, by rw [hdepth, hdepth']; rfl, fun _ => hunderway⟩

/-- **Outside texts** the quotes and the brackets alone decide where the machine goes. -/
theorem Move.outside (h : Move s c s') (hs : s.quoting = none) : Shifts s c s' := by
  induction h with
  | start => exact ⟨by decide, rfl, rfl, fun _ => .inl (Nat.succ_pos _)⟩
  | space hbetween hc =>
    exact shifts_plain (plain_of_isSpace hc) hs rfl fun hpos => .inl hpos
  | text => exact ⟨by decide, rfl, rfl, fun hpos => .inl hpos⟩
  | object => exact ⟨by decide, rfl, rfl, fun _ => .inl (Nat.succ_pos _)⟩
  | array => exact ⟨by decide, rfl, rfl, fun _ => .inl (Nat.succ_pos _)⟩
  | noItem h => exact shifts_close (.inl rfl) rfl (of_deliver h)
  | bare hc => exact shifts_plain (plain_of_isBare hc) rfl rfl fun hpos => .inl hpos
  | key => exact ⟨by decide, rfl, rfl, fun _ => .inl (Nat.succ_pos _)⟩
  | noMember h => exact shifts_close (.inr rfl) rfl (of_closeObject h)
  | keyEscaped => cases hs
  | keyChar => cases hs
  | keyEnd => cases hs
  | colon => exact ⟨by decide, rfl, rfl, fun _ => .inl (Nat.succ_pos _)⟩
  | textEscaped => cases hs
  | textChar => cases hs
  | textEnd => cases hs
  | bareChar hc => exact shifts_plain (plain_of_isBare hc) rfl rfl fun hpos => .inl hpos
  | bareEnd _ _ hdeliver _ ih =>
    -- the container of the token has taken its value when it takes the character
    obtain ⟨hquoting, hdepth, -⟩ := of_deliver hdeliver
    have hshift := ih hquoting
    exact ⟨hshift.ne, hshift.quoting, hshift.depth.trans (by rw [hdepth]; rfl),
      fun hpos => hshift.underway (by rw [hdepth]; exact hpos)⟩
  | nextItem => exact ⟨by decide, rfl, rfl, fun _ => .inl (Nat.succ_pos _)⟩
  | lastItem h => exact shifts_close (.inl rfl) rfl (of_deliver h)
  | nextMember => exact ⟨by decide, rfl, rfl, fun _ => .inl (Nat.succ_pos _)⟩
  | lastMember h => exact shifts_close (.inr rfl) rfl (of_closeObject h)

/-- **Inside a text** no bracket counts, and only a quote without a backslash leads out of it. -/
theorem Move.inside {escaped : Bool} (h : Move s c s') (hs : s.quoting = some escaped) :
    s'.depth = s.depth ∧
      s'.quoting = if escaped then some false else if c = '"' then none else some (c = '\\') := by
  cases h with
  | space hbetween =>
    rw [quoting_of_betweenTokens hbetween] at hs
    cases hs
  | keyEscaped =>
    cases hs
    exact ⟨rfl, rfl⟩
  | keyChar hc =>
    cases hs
    exact ⟨rfl, (if_neg hc).symm⟩
  | keyEnd =>
    cases hs
    exact ⟨rfl, rfl⟩
  | textEscaped =>
    cases hs
    exact ⟨rfl, rfl⟩
  | textChar hc =>
    cases hs
    exact ⟨rfl, (if_neg hc).symm⟩
  | textEnd _ hdeliver =>
    cases hs
    obtain ⟨hquoting, hdepth, -⟩ := of_deliver hdeliver
    exact ⟨hdepth, hquoting⟩
  | _ => cases hs

/-! ## Two readings of one text -/

/-- The two stand on the same side of the quotes, the second with `k` more containers open. -/
structure Level (k : Nat) (s t : State) : Prop where
  /-- On the same side of the quotes. -/
  quoting : t.quoting = s.quoting
  /-- With `k` more containers open. -/
  depth : t.depth = s.depth + k

theorem Level.move {k : Nat} (h : Level k s t) (hs : Move s c s') (ht : Move t c t') :
    Level k s' t' := by
  cases hquoting : s.quoting with
  | none =>
    have hs' := hs.outside hquoting
    have ht' := ht.outside (h.quoting.trans hquoting)
    refine ⟨ht'.quoting.trans hs'.quoting.symm, ?_⟩
    have hdepth := hs'.depth
    have hdepth' := ht'.depth
    rw [h.depth] at hdepth'
    omega
  | some escaped =>
    have hs' := hs.inside hquoting
    have ht' := ht.inside (h.quoting.trans hquoting)
    exact ⟨ht'.2.trans hs'.2.symm, by rw [ht'.1, hs'.1, h.depth]⟩

theorem Level.run {k : Nat} {cs : List Char} (h : Level k s t) (hs : Reader.run s cs = some s')
    (ht : Reader.run t cs = some t') : Level k s' t' := by
  induction cs generalizing s t with
  | nil =>
    cases hs
    cases ht
    exact h
  | cons c cs ih =>
    obtain ⟨s₁, hs₁, hs⟩ := exists_move_of_run_cons hs
    obtain ⟨t₁, ht₁, ht⟩ := exists_move_of_run_cons ht
    exact ih (h.move hs₁ ht₁) hs ht

/-- The two stand on different sides of the quotes, and no backslash is just before them. -/
def Opposed (s t : State) : Prop :=
  s.quoting = none ∧ t.quoting = some false ∨ s.quoting = some false ∧ t.quoting = none

/-- Outside texts there is no backslash, so a quote is a quote for both. -/
theorem quoting_of_opposed (hs : s.quoting = none) (ht : t.quoting = some false)
    (hs' : Move s c s') (ht' : Move t c t') : Opposed s' t' := by
  have hshift := hs'.outside hs
  have hinside := (ht'.inside ht).2
  rw [if_neg (by decide)] at hinside
  by_cases hquote : c = '"'
  · exact .inr ⟨by rw [hshift.quoting, if_pos hquote], by rw [hinside, if_pos hquote]⟩
  · refine .inl ⟨by rw [hshift.quoting, if_neg hquote], ?_⟩
    rw [hinside, if_neg hquote, decide_eq_false hshift.ne]

theorem Opposed.move (h : Opposed s t) (hs : Move s c s') (ht : Move t c t') : Opposed s' t' := by
  rcases h with ⟨hout, hin⟩ | ⟨hin, hout⟩
  · exact quoting_of_opposed hout hin hs ht
  · exact (quoting_of_opposed hout hin ht hs).symm.imp And.symm And.symm

theorem Opposed.run {cs : List Char} (h : Opposed s t) (hs : Reader.run s cs = some s')
    (ht : Reader.run t cs = some t') : Opposed s' t' := by
  induction cs generalizing s t with
  | nil =>
    cases hs
    cases ht
    exact h
  | cons c cs ih =>
    obtain ⟨s₁, hs₁, hs⟩ := exists_move_of_run_cons hs
    obtain ⟨t₁, ht₁, ht⟩ := exists_move_of_run_cons ht
    exact ih (h.move hs₁ ht₁) hs ht

/-! ## Texts that are glued together -/

theorem underway_of_run {cs : List Char} (hs : s.underway) (h : run s cs = some s') :
    s'.underway := by
  induction cs generalizing s with
  | nil =>
    cases h
    exact hs
  | cons c cs ih =>
    obtain ⟨t, ht, h⟩ := exists_move_of_run_cons h
    refine ih ?_ h
    cases hquoting : s.quoting with
    | none =>
      rcases hs with hpos | ⟨members, rfl⟩
      · exact (ht.outside hquoting).underway hpos
      · cases ht
        exact .inr ⟨members, rfl⟩
    | some escaped =>
      rcases hs with hpos | ⟨members, rfl⟩
      · exact .inl ((ht.inside hquoting).1 ▸ hpos)
      · cases hquoting

/-- An object begins with its brace. -/
theorem run_start_cons {cs : List Char} (h : run .start (c :: cs) = some s) :
    c = '\x7b' ∧ run (.key true [] []) cs = some s := by
  obtain ⟨t, ht, h⟩ := exists_move_of_run_cons h
  cases ht with
  | start => exact ⟨rfl, h⟩
  | space hbetween => cases hbetween

/-- **Nothing can stand before an object.**  Whatever has been read, be it a whole object, a part
of one that ends outside texts, or one that ends inside a text, so that all the quotes behind it
turn round: no object can follow. -/
theorem run_start_append_ne_done {p q : List Char} {members members' : List (String × Json)}
    (hp : p ≠ []) (hq : run .start q = some (.done members)) :
    run .start (p ++ q) ≠ some (.done members') := by
  intro hglued
  rw [run_append] at hglued
  obtain ⟨s, hs, hrest⟩ := Option.bind_eq_some_iff.1 hglued
  obtain ⟨c, p, rfl⟩ := List.exists_cons_of_ne_nil hp
  have hbegun : (State.key true [] []).underway := .inl (Nat.succ_pos _)
  have hunderway : s.underway := underway_of_run hbegun (run_start_cons hs).2
  clear hglued
  cases q with
  | nil => cases hq
  | cons d q =>
    obtain ⟨rfl, hq'⟩ := run_start_cons hq
    obtain ⟨t, ht, hrest'⟩ := exists_move_of_run_cons hrest
    rcases hunderway with hpos | ⟨members'', rfl⟩
    · cases hquoting : s.quoting with
      | none =>
        -- the containers that are open at the cut are never closed
        have hlevel : Level s.depth .start s := ⟨hquoting, (Nat.zero_add _).symm⟩
        have hdepth := (hlevel.run hq hrest).depth
        rw [State.depth, State.depth] at hdepth
        omega
      | some escaped =>
        -- what is outside texts for one reading is inside them for the other
        have hinside := (ht.inside hquoting).2
        have hopposed : Opposed (.key true [] []) t := by
          refine .inl ⟨rfl, hinside.trans ?_⟩
          cases escaped <;> rfl
        rcases hopposed.run hq' hrest' with ⟨-, hend⟩ | ⟨hend, -⟩
        · cases hend
        · cases hend
    · cases ht with
      | space _ hc => cases hc

/-- After an object only space can follow. -/
theorem isSpace_of_run_done {cs : List Char} {members : List (String × Json)}
    (h : run (.done members) cs = some s) : ∀ c ∈ cs, isSpace c = true := by
  induction cs with
  | nil => simp
  | cons c cs ih =>
    obtain ⟨t, ht, h⟩ := exists_move_of_run_cons h
    cases ht with
    | space _ hc => exact List.forall_mem_cons.2 ⟨hc, ih h⟩

end Reader
end Json
end TelemetryLog
