import TelemetryLog.Json.Reader
import TelemetryLog.Proofs.Json.Grammar

/-!
# Space, words and numbers

A number literal is read part by part: sign, digits, fraction, exponent.  Each part is taken as far
as it goes, and no part can begin with a character of the one before it, so what is taken is what
the grammar says (`ofLiteral?_eq_some_iff`).  The three words and the number literals together are
what a bare token can be (`scalar?_eq_some_iff`).

For each part there are two lemmas.  One says that the part is taken when it stands in front of
something that does not go on with it (`takeDigits_append`, `takeFraction?_append`), the other what
has been taken when it was (`of_takeDigits`, `of_takeFraction?`).  The theorems put them together in
the order in which the parts stand.

A number is kept as its digits and not as a value.  So nothing is rounded here, a number of any
length is read, and `1.0` and `1.00` are two numbers; which rational number a literal denotes is
said in `Proofs.Json.Spelling`.
-/

set_option autoImplicit false

namespace TelemetryLog
namespace Json

variable {cs rest ds : List Char} {n : Number}

/-! ## Space -/

instance (cs : List Char) : Decidable (IsSpace cs) :=
  List.decidableBAll (fun c => c = ' ' ∨ c = '\t' ∨ c = '\n' ∨ c = '\r') cs

theorem isSpace_nil : IsSpace [] := by
  simp [IsSpace]

theorem IsSpace.concat {c : Char} (h : IsSpace cs) (hc : isSpace c = true) :
    IsSpace (cs ++ [c]) := by
  intro d hd
  rcases List.mem_append.1 hd with hd | hd
  · exact h d hd
  · exact List.mem_singleton.1 hd ▸ isSpace_iff.1 hc

namespace Number

/-! ## The parts of a literal -/

theorem takeDigits_append (hds : ∀ d ∈ ds, d.isDigit = true)
    (hrest : ∀ c ∈ rest.head?, c.isDigit = false) : takeDigits (ds ++ rest) = (ds, rest) := by
  have htake : rest.takeWhile Char.isDigit = [] ∧ rest.dropWhile Char.isDigit = rest := by
    cases rest with
    | nil => exact ⟨rfl, rfl⟩
    | cons c rest => simp [hrest c rfl]
  rw [takeDigits, List.takeWhile_append_of_pos hds, List.dropWhile_append_of_pos hds, htake.1,
    htake.2, List.append_nil]

theorem of_takeDigits (h : takeDigits cs = (ds, rest)) :
    cs = ds ++ rest ∧ ∀ d ∈ ds, d.isDigit = true := by
  obtain ⟨rfl, rfl⟩ := Prod.mk.inj h
  exact ⟨List.takeWhile_append_dropWhile.symm, List.all_eq_true.1 List.all_takeWhile⟩

theorem takeSign_append (h : rest.head? ≠ some '-') :
    takeSign (n.signText ++ rest) = (n.negative, rest) := by
  rw [signText]
  cases n.negative with
  | true => rfl
  | false =>
    rw [if_neg (by decide), List.nil_append]
    unfold takeSign
    split
    · exact absurd rfl h
    · rfl

theorem of_takeSign {negative : Bool} (h : takeSign cs = (negative, rest)) :
    cs = (if negative then ['-'] else []) ++ rest := by
  unfold takeSign at h
  split at h
  · cases h
    rfl
  · cases h
    rfl

theorem isWhole_iff :
    isWhole ds = true ↔ ds = ['0'] ∨ ∃ d more, ds = d :: more ∧ d ≠ '0' := by
  cases ds with
  | nil => simp [isWhole]
  | cons d more =>
    by_cases hd : d = '0'
    · simp [isWhole, hd]
    · simp [isWhole, hd]

theorem takeFraction?_append (hdigits : ∀ d ∈ n.fraction, d.isDigit = true)
    (hrest : ∀ c ∈ rest.head?, c.isDigit = false ∧ c ≠ '.') :
    takeFraction? (n.fractionText ++ rest) = some (n.fraction, rest) := by
  rw [fractionText]
  by_cases hempty : n.fraction = []
  · rw [hempty, if_pos (by rfl), List.nil_append]
    unfold takeFraction?
    split
    · exact absurd rfl (hrest '.' rfl).2
    · rfl
  · rw [if_neg (by simpa using hempty), List.cons_append, takeFraction?,
      takeDigits_append hdigits fun c hc => (hrest c hc).1]
    dsimp only
    rw [if_neg (by simpa using hempty)]

theorem of_takeFraction? (h : takeFraction? cs = some (ds, rest)) :
    cs = (if ds.isEmpty then [] else '.' :: ds) ++ rest ∧ ∀ d ∈ ds, d.isDigit = true := by
  unfold takeFraction? at h
  split at h
  · rename_i cs
    rcases hds : takeDigits cs with ⟨digits, tail⟩
    rw [hds] at h
    dsimp only at h
    split at h
    · cases h
    · rename_i hne
      cases h
      obtain ⟨rfl, hdigits⟩ := of_takeDigits hds
      rw [if_neg hne]
      exact ⟨rfl, hdigits⟩
  · cases h
    exact ⟨rfl, by simp⟩

theorem head_of_exponentText {e : Option Exponent} (h : ExponentText cs e) :
    ∀ c ∈ cs.head?, c = 'e' ∨ c = 'E' := by
  cases h with
  | none => simp
  | signed hletter => simpa using hletter
  | unsigned hletter => simpa using hletter

theorem takeExponent?_of_exponentText {e : Option Exponent} (h : ExponentText cs e) :
    takeExponent? cs = some (e, []) := by
  have hnil : ∀ c ∈ ([] : List Char).head?, c.isDigit = false := by simp
  have hall {ds : List Char} (hds : ∀ d ∈ ds, d.isDigit = true) : takeDigits ds = (ds, []) := by
    simpa using takeDigits_append hds hnil
  cases h with
  | none => rfl
  | @signed letter sign digits hletter hsign hdigits =>
    have hsign : takeExponentSign (sign :: digits) = (decide (sign = '-'), digits) := by
      rcases hsign with rfl | rfl <;> rfl
    rw [takeExponent?, if_pos hletter, exponentOf?, hsign]
    dsimp only
    rw [hall hdigits.2, if_neg (by simpa using hdigits.1)]
    rfl
  | @unsigned letter digits hletter hdigits =>
    have hsign : takeExponentSign digits = (false, digits) := by
      unfold takeExponentSign
      split
      · exact absurd (hdigits.2 '-' List.mem_cons_self) (by decide)
      · exact absurd (hdigits.2 '+' List.mem_cons_self) (by decide)
      · rfl
    rw [takeExponent?, if_pos hletter, exponentOf?, hsign]
    dsimp only
    rw [hall hdigits.2, if_neg (by simpa using hdigits.1)]
    rfl

theorem exponentText_of_exponentOf? {e : Exponent} {letter : Char}
    (hletter : letter = 'e' ∨ letter = 'E') (h : exponentOf? cs = some (e, [])) :
    ExponentText (letter :: cs) (some e) := by
  rw [exponentOf?] at h
  rcases hsign : takeExponentSign cs with ⟨negative, body⟩
  rw [hsign] at h
  rcases hds : takeDigits body with ⟨ds, rest⟩
  dsimp only at h
  rw [hds] at h
  dsimp only at h
  split at h
  · cases h
  rename_i hne
  cases h
  obtain ⟨rfl, hdigits⟩ := of_takeDigits hds
  rw [List.append_nil] at hsign
  have hdigits := And.intro (by simpa using hne : ds ≠ []) hdigits
  unfold takeExponentSign at hsign
  split at hsign
  · cases hsign
    exact .signed hletter (.inr rfl) hdigits
  · cases hsign
    exact .signed hletter (.inl rfl) hdigits
  · cases hsign
    exact .unsigned hletter hdigits

theorem of_takeExponent? {e : Option Exponent} (h : takeExponent? cs = some (e, [])) :
    ExponentText cs e := by
  cases cs with
  | nil =>
    cases h
    exact .none
  | cons c cs =>
    rw [takeExponent?] at h
    split at h
    · obtain ⟨⟨e, rest⟩, he, heq⟩ := Option.map_eq_some_iff.1 h
      cases heq
      exact exponentText_of_exponentOf? ‹_› he
    · cases h

/-! ## Literals -/

theorem numberText_of_ofLiteral? (h : ofLiteral? cs = some n) : NumberText cs n := by
  rw [ofLiteral?] at h
  rcases hsign : takeSign cs with ⟨negative, body⟩
  rw [hsign] at h
  rcases hwhole : takeDigits body with ⟨whole, body'⟩
  dsimp only at h
  rw [hwhole] at h
  dsimp only at h
  split at h
  · rename_i hiswhole
    cases hfraction : takeFraction? body' with
    | none =>
      rw [hfraction] at h
      cases h
    | some p =>
      obtain ⟨fraction, tail⟩ := p
      rw [hfraction] at h
      dsimp only at h
      split at h
      · rename_i exponent hexponent
        cases h
        obtain ⟨rfl, hdigits⟩ := of_takeDigits hwhole
        obtain ⟨rfl, hdigits'⟩ := of_takeFraction? hfraction
        exact ⟨isWhole_iff.1 hiswhole, hdigits, hdigits', tail, of_takeExponent? hexponent,
          of_takeSign hsign⟩
      · cases h
  · cases h

theorem ofLiteral?_of_numberText (h : NumberText cs n) : ofLiteral? cs = some n := by
  obtain ⟨hwhole, hdigits, hdigits', es, hexponent, rfl⟩ := h
  -- each part ends where the next one begins
  have hes : ∀ c ∈ es.head?, c.isDigit = false ∧ c ≠ '.' := by
    intro c hc
    rcases head_of_exponentText hexponent c hc with rfl | rfl <;> decide
  have hfraction : ∀ c ∈ (n.fractionText ++ es).head?, c.isDigit = false := by
    rw [fractionText]
    split
    · exact fun c hc => (hes c hc).1
    · intro c hc
      cases hc
      decide
  have hsign : (n.whole ++ (n.fractionText ++ es)).head? ≠ some '-' := by
    obtain ⟨d, ds, hd⟩ : ∃ d ds, n.whole = d :: ds := by
      rcases hwhole with h | ⟨d, ds, h, -⟩
      · exact ⟨_, _, h⟩
      · exact ⟨_, _, h⟩
    rw [hd] at hdigits ⊢
    intro hminus
    cases hminus
    exact absurd (hdigits '-' List.mem_cons_self) (by decide)
  rw [ofLiteral?, takeSign_append hsign]
  dsimp only
  rw [takeDigits_append hdigits hfraction]
  dsimp only
  rw [if_pos (isWhole_iff.2 hwhole), takeFraction?_append hdigits' hes]
  dsimp only
  rw [takeExponent?_of_exponentText hexponent]

/-- **A literal is read exactly if it is one**, digit for digit. -/
theorem ofLiteral?_eq_some_iff : ofLiteral? cs = some n ↔ NumberText cs n :=
  ⟨numberText_of_ofLiteral?, ofLiteral?_of_numberText⟩

instance (cs : List Char) (n : Number) : Decidable (NumberText cs n) :=
  decidable_of_iff _ ofLiteral?_eq_some_iff

/-- Only the exponent is spelled anew. -/
example : (ofLiteral? ['-', '1', '.', '5', '0', 'E', '0', '7']).map text =
    some ['-', '1', '.', '5', '0', 'e', '+', '0', '7'] := by
  decide

/-- A zero with a minus keeps it: a literal is no integer, in which it would be lost. -/
example : (ofLiteral? ['-', '0']).map text = some ['-', '0'] := by
  decide

end Number

/-! ## Bare tokens -/

theorem isBare_of_isDigit {c : Char} (h : c.isDigit = true) : isBare c = true := by
  simp [isBare, Char.isAlphanum, h]

theorem isBare_of_exponentText {e : Option Exponent} (h : ExponentText cs e) :
    ∀ c ∈ cs, isBare c = true := by
  have hall {ds : List Char} (hds : ∀ d ∈ ds, d.isDigit = true) : ∀ d ∈ ds, isBare d = true :=
    fun d hd => isBare_of_isDigit (hds d hd)
  have hletter {c : Char} (hc : c = 'e' ∨ c = 'E') : isBare c = true := by
    rcases hc with rfl | rfl <;> decide
  have hsign {c : Char} (hc : c = '+' ∨ c = '-') : isBare c = true := by
    rcases hc with rfl | rfl <;> decide
  cases h with
  | none => simp
  | signed hl hs hdigits =>
    exact List.forall_mem_cons.2 ⟨hletter hl, List.forall_mem_cons.2 ⟨hsign hs, hall hdigits.2⟩⟩
  | unsigned hl hdigits => exact List.forall_mem_cons.2 ⟨hletter hl, hall hdigits.2⟩

theorem isBare_of_numberText (h : NumberText cs n) : ∀ c ∈ cs, isBare c = true := by
  obtain ⟨-, hdigits, hdigits', es, hexponent, rfl⟩ := h
  intro c hc
  rw [List.mem_append, List.mem_append, List.mem_append] at hc
  rcases hc with hc | hc | hc | hc
  · rw [Number.signText] at hc
    split at hc
    · obtain rfl := List.mem_singleton.1 hc
      decide
    · cases hc
  · exact isBare_of_isDigit (hdigits c hc)
  · rw [Number.fractionText] at hc
    split at hc
    · cases hc
    · rcases List.mem_cons.1 hc with rfl | hc
      · decide
      · exact isBare_of_isDigit (hdigits' c hc)
  · exact isBare_of_exponentText hexponent c hc

theorem ne_nil_of_numberText (h : NumberText cs n) : cs ≠ [] := by
  obtain ⟨hwhole, -, -, es, -, rfl⟩ := h
  rcases hwhole with hwhole | ⟨d, ds, hwhole, -⟩
  · simp [hwhole]
  · simp [hwhole]

variable {v : Json}

theorem isBare_of_scalarText (h : ScalarText cs v) : cs ≠ [] ∧ ∀ c ∈ cs, isBare c = true := by
  cases h with
  | null => exact ⟨by simp, List.all_eq_true.1 rfl⟩
  | yes => exact ⟨by simp, List.all_eq_true.1 rfl⟩
  | no => exact ⟨by simp, List.all_eq_true.1 rfl⟩
  | number h => exact ⟨ne_nil_of_numberText h, isBare_of_numberText h⟩

/-- **A bare token is read exactly if it is a word or a number.** -/
theorem scalar?_eq_some_iff : scalar? cs = some v ↔ ScalarText cs v := by
  constructor
  · intro h
    rw [scalar?] at h
    split at h
    · obtain rfl := ‹cs = _›
      cases h
      exact .null
    split at h
    · obtain rfl := ‹cs = _›
      cases h
      exact .yes
    split at h
    · obtain rfl := ‹cs = _›
      cases h
      exact .no
    · obtain ⟨n, hn, rfl⟩ := Option.map_eq_some_iff.1 h
      exact .number (Number.ofLiteral?_eq_some_iff.1 hn)
  · intro h
    cases h with
    | null => rfl
    | yes => rfl
    | no => rfl
    | number h =>
      have h := Number.ofLiteral?_eq_some_iff.2 h
      -- none of the words is a number literal
      have hne : ∀ word, Number.ofLiteral? word = none → cs ≠ word := by
        rintro word hword rfl
        rw [hword] at h
        cases h
      rw [scalar?, if_neg (hne _ (by decide)), if_neg (hne _ (by decide)),
        if_neg (hne _ (by decide)), h]
      rfl

end Json
end TelemetryLog
