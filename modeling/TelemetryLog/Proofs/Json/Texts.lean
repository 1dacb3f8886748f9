import TelemetryLog.Proofs.Json.Grammar

/-!
# Texts between quotes

A body is decoded in two passes: the machine looks for the quote that ends it and only keeps track
of backslashes (`escapedAfter`), and the characters before that quote are then decoded all at once.
Together the two passes accept exactly the bodies of the grammar (`bodyText_iff`): no spelling of a
character hides a quote or leaves a backslash open (`escapedAfter_of_charText`), and where there is
no quote, what is decoded is a spelling (`of_takeChar?`).

A character can be spelled as itself, as a letter behind a backslash, or as one or two code units in
hexadecimal.  Two units are a pair, which stands for a character above `U+FFFF`; half a pair stands
for nothing, and no character is one (`not_surrogate`).  So a unit that is no half is a character by
itself, and the spellings do not overlap in what they accept.

The equivalence needs both passes.  The decoder alone would go on behind a quote, and the machine
alone would let a backslash stand before any letter.
-/

set_option autoImplicit false

namespace TelemetryLog
namespace Json

variable {cs rest ds xs : List Char} {c x : Char} {u : Nat}

/-! ## Code units -/

theorem hexValue?_eq_some_iff {n : Nat} : hexValue? c = some n ↔ HexText c n := by
  have hle (a b : Char) : a ≤ b ↔ a.toNat ≤ b.toNat := Iff.rfl
  simp only [hexValue?, hle, Char.reduceToNat]
  constructor
  · intro h
    split at h
    · cases h
      exact .digit (by omega) (by omega)
    split at h
    · cases h
      exact .small (by omega) (by omega)
    split at h
    · cases h
      exact .large (by omega) (by omega)
    · cases h
  · intro h
    cases h with
    | digit hn hc => rw [if_pos (by omega), hc, Nat.add_sub_cancel_left]
    | small hn hc =>
      rw [if_neg (by omega), if_pos (by omega), hc, Nat.add_sub_cancel_left]
    | large hn hc =>
      rw [if_neg (by omega), if_neg (by omega), if_pos (by omega), hc, Nat.add_sub_cancel_left]

theorem HexText.lt {n : Nat} (h : HexText c n) : n < 16 := by
  cases h with
  | digit hn => omega
  | small hn => exact hn.2
  | large hn => exact hn.2

theorem HexText.ne {n : Nat} (h : HexText c n) : c ≠ '"' ∧ c ≠ '\\' := by
  have hne : c.toNat ≠ 34 ∧ c.toNat ≠ 92 := by
    cases h with
    | digit hn hc => omega
    | small hn hc => omega
    | large hn hc => omega
  constructor
  · rintro rfl
    exact hne.1 rfl
  · rintro rfl
    exact hne.2 rfl

theorem UnitText.lt (h : UnitText ds u) : u < 65536 := by
  obtain ⟨ha, hb, hc, hd⟩ := h
  have := ha.lt
  have := hb.lt
  have := hc.lt
  have := hd.lt
  omega

theorem UnitText.ne (h : UnitText ds u) : ∀ d ∈ ds, d ≠ '"' ∧ d ≠ '\\' := by
  obtain ⟨ha, hb, hc, hd⟩ := h
  simp only [List.forall_mem_cons]
  exact ⟨ha.ne, hb.ne, hc.ne, hd.ne, by simp⟩

theorem takeUnit?_append (h : UnitText ds u) : takeUnit? (ds ++ rest) = some (u, rest) := by
  obtain ⟨ha, hb, hc, hd⟩ := h
  simp only [List.cons_append, List.nil_append, takeUnit?, unit?, hexValue?_eq_some_iff.2 ha,
    hexValue?_eq_some_iff.2 hb, hexValue?_eq_some_iff.2 hc, hexValue?_eq_some_iff.2 hd,
    Option.map_some, Option.some.injEq, Prod.mk.injEq, and_true]
  omega

theorem of_takeUnit? (h : takeUnit? cs = some (u, rest)) :
    ∃ ds, UnitText ds u ∧ cs = ds ++ rest := by
  unfold takeUnit? at h
  split at h
  · rename_i a b c d tail
    obtain ⟨n, hn, heq⟩ := Option.map_eq_some_iff.1 h
    cases heq
    rw [unit?] at hn
    split at hn
    · rename_i w x y z ha hb hc hd
      have hunit := UnitText.mk (hexValue?_eq_some_iff.1 ha) (hexValue?_eq_some_iff.1 hb)
        (hexValue?_eq_some_iff.1 hc) (hexValue?_eq_some_iff.1 hd)
      have hu : 4096 * w + 256 * x + 16 * y + z = u := by
        rw [← Option.some.inj hn]
        omega
      exact ⟨_, hu ▸ hunit, rfl⟩
    · cases hn
  · cases h

theorem toNat_ofNat {n : Nat} (h : n.isValidChar) : (Char.ofNat n).toNat = n := by
  rw [Char.ofNat, dif_pos h]
  rfl

theorem isHighUnit_iff : isHighUnit u = true ↔ 0xD800 ≤ u ∧ u < 0xDC00 := by
  rw [isHighUnit, Bool.and_eq_true, decide_eq_true_eq, decide_eq_true_eq]

theorem isLowUnit_iff : isLowUnit u = true ↔ 0xDC00 ≤ u ∧ u < 0xE000 := by
  rw [isLowUnit, Bool.and_eq_true, decide_eq_true_eq, decide_eq_true_eq]

/-! ## One character -/

theorem shortEscape?_eq_some_iff : shortEscape? c = some x ↔ (c, x) ∈ letterEscapes := by
  simp only [shortEscape?, letterEscapes, List.mem_cons, Prod.mk.injEq, List.not_mem_nil, or_false]
  constructor
  · intro h
    repeat' split at h
    all_goals cases h
    all_goals simp [*]
  · intro h
    rcases h with h | h | h | h | h | h | h | h <;> (obtain ⟨rfl, rfl⟩ := h; rfl)

/-- A character is not half of a pair. -/
theorem not_surrogate (x : Char) : isLowUnit x.toNat = false ∧ isHighUnit x.toNat = false := by
  have hvalid : x.toNat < 0xD800 ∨ 0xDFFF < x.toNat ∧ x.toNat < 0x110000 := x.valid
  rw [Bool.eq_false_iff, Ne, isLowUnit_iff, Bool.eq_false_iff, Ne, isHighUnit_iff]
  omega

theorem takeChar?_append (h : CharText cs x) : takeChar? (cs ++ rest) = some (x, rest) := by
  cases h with
  | plain hcontrol hquote hbackslash =>
    rw [List.singleton_append, takeChar?, if_neg hbackslash, if_neg (by omega)]
  | @letter e _ h =>
    have hu : e ≠ 'u' := by
      rintro rfl
      simp [letterEscapes] at h
    rw [List.cons_append, List.singleton_append, takeChar?, if_pos rfl, takeEscape?, if_neg hu,
      shortEscape?_eq_some_iff.2 h]
    rfl
  | unit h =>
    obtain ⟨hlow, hhigh⟩ := not_surrogate x
    rw [List.cons_append, List.cons_append, takeChar?, if_pos rfl, takeEscape?, if_pos rfl,
      takeCoded?, takeUnit?_append h]
    dsimp only
    rw [hlow, hhigh, if_neg (by decide), if_neg (by decide), Char.ofNat_toNat]
  | @pair ds ds' high low _ hds hds' hhigh hlow hc =>
    have hnot : ¬isLowUnit high = true := by
      rw [isLowUnit_iff]
      omega
    have hpair : pairChar high low = x := by
      rw [pairChar, show 0x10000 + (high - 0xD800) * 0x400 + (low - 0xDC00) = x.toNat by omega,
        Char.ofNat_toNat]
    rw [List.cons_append, List.cons_append, List.append_assoc, List.cons_append, List.cons_append,
      takeChar?, if_pos rfl, takeEscape?, if_pos rfl, takeCoded?, takeUnit?_append hds]
    dsimp only
    rw [if_neg hnot, if_pos (isHighUnit_iff.2 hhigh), takeLow?, takeUnit?_append hds']
    dsimp only
    rw [if_pos (isLowUnit_iff.2 hlow), hpair]

theorem of_takeLow? {high : Nat} (h : takeLow? high cs = some (x, rest)) :
    ∃ ds low, UnitText ds low ∧ isLowUnit low = true ∧ x = pairChar high low ∧
      cs = '\\' :: 'u' :: (ds ++ rest) := by
  unfold takeLow? at h
  split at h
  · split at h
    · cases h
    · rename_i hunit
      split at h
      · rename_i hlow
        obtain ⟨hx, rfl⟩ := Prod.mk.inj (Option.some.inj h)
        obtain ⟨ds, hds, rfl⟩ := of_takeUnit? hunit
        exact ⟨ds, _, hds, hlow, hx.symm, rfl⟩
      · cases h
  · cases h

theorem of_takeCoded? (h : takeCoded? cs = some (x, rest)) :
    ∃ front, CharText ('\\' :: 'u' :: front) x ∧ cs = front ++ rest := by
  rw [takeCoded?] at h
  split at h
  · cases h
  rename_i u tail hunit
  obtain ⟨ds, hds, rfl⟩ := of_takeUnit? hunit
  have hlt := hds.lt
  split at h
  · cases h
  rename_i hlow
  rw [isLowUnit_iff] at hlow
  split at h
  · rename_i hhigh
    obtain ⟨ds', low, hds', hlow', hx, rfl⟩ := of_takeLow? h
    rw [isHighUnit_iff] at hhigh
    rw [isLowUnit_iff] at hlow'
    refine ⟨ds ++ '\\' :: 'u' :: ds', .pair hds hds' hhigh hlow' ?_, by simp⟩
    rw [hx, pairChar, toNat_ofNat (by rw [Nat.isValidChar]; omega)]
    omega
  · rename_i hhigh
    rw [isHighUnit_iff] at hhigh
    cases h
    exact ⟨ds, .unit (by rwa [toNat_ofNat (by rw [Nat.isValidChar]; omega)]), rfl⟩

/-- What is decoded is a spelling of the character, unless it is a bare quote. -/
theorem of_takeChar? (hquote : cs.head? ≠ some '"') (h : takeChar? cs = some (x, rest)) :
    ∃ front, CharText front x ∧ cs = front ++ rest := by
  cases cs with
  | nil => cases h
  | cons c cs =>
    rw [takeChar?] at h
    split at h
    · obtain rfl := ‹c = _›
      cases cs with
      | nil => cases h
      | cons e cs =>
        rw [takeEscape?] at h
        split at h
        · obtain rfl := ‹e = _›
          obtain ⟨front, hfront, rfl⟩ := of_takeCoded? h
          exact ⟨_, hfront, rfl⟩
        · obtain ⟨y, hy, heq⟩ := Option.map_eq_some_iff.1 h
          cases heq
          exact ⟨['\\', e], .letter (shortEscape?_eq_some_iff.1 hy), rfl⟩
    split at h
    · cases h
    · have hne : c ≠ '"' := by
        rintro rfl
        exact hquote rfl
      cases h
      exact ⟨[x], .plain (by omega) hne ‹_›, rfl⟩

/-! ## Backslashes and quotes

The first pass, as a function of its own: whether the next character is escaped, or none if the body
is over.  The reader keeps the same truth value in its state. -/

/-- Is the next character escaped, after these characters of a body?  None if one of them is the
quote that ends the body. -/
def escapedAfter : Bool → List Char → Option Bool
  | escaped, [] => some escaped
  | true, _ :: cs => escapedAfter false cs
  | false, c :: cs => if c = '"' then none else escapedAfter (c = '\\') cs

@[simp] theorem escapedAfter_nil {escaped : Bool} : escapedAfter escaped [] = some escaped := by
  cases escaped <;> rfl

theorem escapedAfter_append {escaped : Bool} {as bs : List Char} :
    escapedAfter escaped (as ++ bs) =
      (escapedAfter escaped as).bind fun escaped => escapedAfter escaped bs := by
  induction as generalizing escaped with
  | nil => simp
  | cons c as ih =>
    cases escaped with
    | true => exact ih
    | false =>
      rw [List.cons_append, escapedAfter, escapedAfter]
      split
      · rfl
      · exact ih

theorem escapedAfter_of_plain (h : ∀ d ∈ cs, d ≠ '"' ∧ d ≠ '\\') :
    escapedAfter false cs = some false := by
  induction cs with
  | nil => rfl
  | cons c cs ih =>
    obtain ⟨hquote, hbackslash⟩ := h c List.mem_cons_self
    rw [escapedAfter, if_neg hquote, decide_eq_false hbackslash]
    exact ih fun d hd => h d (List.mem_cons_of_mem c hd)

theorem escapedAfter_of_unitText (h : UnitText ds u) :
    escapedAfter false ('\\' :: 'u' :: ds) = some false := by
  have hds := escapedAfter_of_plain h.ne
  exact hds

/-- No spelling of a character has a quote that ends the body. -/
theorem escapedAfter_of_charText (h : CharText cs x) : escapedAfter false cs = some false := by
  cases h with
  | plain _ hquote hbackslash =>
    exact escapedAfter_of_plain (by simp [hquote, hbackslash])
  | letter => rfl
  | unit h => exact escapedAfter_of_unitText h
  | pair hds hds' =>
    rw [← List.cons_append, ← List.cons_append, escapedAfter_append, escapedAfter_of_unitText hds]
    exact escapedAfter_of_unitText hds'

theorem escapedAfter_of_bodyText (h : BodyText cs xs) : escapedAfter false cs = some false := by
  induction h with
  | nil => rfl
  | cons hx _ ih =>
    rw [escapedAfter_append, escapedAfter_of_charText hx]
    exact ih

/-! ## Bodies -/

theorem unescapeFrom_of_takeChar? {done : List Char} (h : takeChar? cs = some (x, rest)) :
    unescapeFrom done cs = unescapeFrom (x :: done) rest := by
  cases cs with
  | nil => cases h
  | cons c cs =>
    rw [unescapeFrom]
    split
    · rename_i hnone
      rw [hnone] at h
      cases h
    · rename_i hsome
      rw [hsome] at h
      cases h
      rfl

theorem unescapeFrom_of_bodyText {done : List Char} (h : BodyText cs xs) :
    unescapeFrom done cs = some (done.reverse ++ xs) := by
  induction h generalizing done with
  | nil =>
    rw [unescapeFrom, List.append_nil]
  | cons hx _ ih =>
    rw [unescapeFrom_of_takeChar? (takeChar?_append hx), ih, List.reverse_cons, List.append_assoc,
      List.singleton_append]

theorem bodyText_of_unescapeFrom {done : List Char} (hend : escapedAfter false cs = some false)
    (h : unescapeFrom done cs = some xs) : ∃ ys, xs = done.reverse ++ ys ∧ BodyText cs ys := by
  induction done, cs using unescapeFrom.induct with
  | case1 done =>
    rw [unescapeFrom] at h
    exact ⟨[], by rw [← Option.some.inj h, List.append_nil], .nil⟩
  | case2 done c cs hnone =>
    rw [unescapeFrom] at h
    split at h
    · cases h
    · rename_i hsome
      rw [hnone] at hsome
      cases hsome
  | case3 done c cs x rest hsome ih =>
    have hquote : (c :: cs).head? ≠ some '"' := by
      intro hc
      cases hc
      cases hend
    obtain ⟨front, hfront, heq⟩ := of_takeChar? hquote hsome
    rw [unescapeFrom_of_takeChar? hsome] at h
    rw [heq, escapedAfter_append, escapedAfter_of_charText hfront] at hend
    obtain ⟨ys, rfl, hys⟩ := ih hend h
    exact ⟨x :: ys, by simp, heq ▸ .cons hfront hys⟩

/-- **A body is decoded exactly if it is one**: no quote ends it too early, no backslash is left
open, and what is decoded is what it spells. -/
theorem bodyText_iff :
    BodyText cs xs ↔ escapedAfter false cs = some false ∧ unescape? cs = some xs := by
  constructor
  · exact fun h => ⟨escapedAfter_of_bodyText h, unescapeFrom_of_bodyText h⟩
  · rintro ⟨hend, h⟩
    obtain ⟨ys, rfl, hys⟩ := bodyText_of_unescapeFrom hend h
    exact hys

instance (cs xs : List Char) : Decidable (BodyText cs xs) :=
  decidable_of_iff _ bodyText_iff.symm

end Json
end TelemetryLog
