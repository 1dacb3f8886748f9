import TelemetryLog.Proofs.Json.Scalars
import TelemetryLog.Proofs.Json.Texts

/-!
# How texts and numbers are written

Of all the spellings of a text or a number one is written.  It is in the grammar: `escape` gives a
body of the characters (`bodyText_escape`), and the one spelling of a number is a literal of that
number (`numberText_text`).

For a number it is close to what was sent.  `respell` changes a literal only at the letter of its
exponent and the sign behind it, and the spelling that is written is the literal that was sent,
respelled (`text_eq_respell`).  So no digit is lost and no sign, and the two denote one rational
number (`denotes_respell_iff`).

What a literal denotes is defined for the digits as they stand (`Number.toRat`), with no rounding
and no bound on the exponent.  It has nothing to say about a zero with a minus, which is zero; that
the minus is still there when the literal is written is a fact about its characters
(`head?_respell`).
-/

set_option autoImplicit false

namespace TelemetryLog
namespace Json

variable {cs : List Char} {n : Number}

/-! ## Texts -/

theorem hexText_hexDigit {d : Nat} (h : d < 16) : HexText (hexDigit d) d := by
  rw [hexDigit]
  split
  · exact .digit ‹_› (toNat_ofNat (by rw [Nat.isValidChar]; omega))
  · exact .small (by omega) (toNat_ofNat (by rw [Nat.isValidChar]; omega))

theorem charText_escapeChar (c : Char) : CharText (escapeChar c) c := by
  rw [escapeChar]
  -- the characters with a letter of their own
  iterate 7
    split
    · obtain rfl := ‹c = _›
      exact .letter (by decide)
  split
  · have hunit := UnitText.mk (hexText_hexDigit (d := 0) (by decide))
      (hexText_hexDigit (d := 0) (by decide)) (hexText_hexDigit (d := c.toNat / 16) (by omega))
      (hexText_hexDigit (d := c.toNat % 16) (by omega))
    rw [show 4096 * 0 + 256 * 0 + 16 * (c.toNat / 16) + c.toNat % 16 = c.toNat by omega] at hunit
    exact .unit hunit
  · exact .plain (by omega) ‹_› ‹_›

/-- What is written between the quotes is a spelling of the text. -/
theorem bodyText_escape (cs : List Char) : BodyText (escape cs) cs := by
  induction cs with
  | nil => exact .nil
  | cons c cs ih => exact .cons (charText_escapeChar c) ih

/-! ## Numbers -/

theorem exponentText_exponentText {es : List Char} (h : ExponentText es n.exponent) :
    ExponentText n.exponentText n.exponent := by
  rw [Number.exponentText]
  generalize n.exponent = exponent at h ⊢
  have hwritten {negative : Bool} {digits : List Char}
      (hdigits : digits ≠ [] ∧ ∀ d ∈ digits, d.isDigit = true) :
      ExponentText (Exponent.text ⟨negative, digits⟩) (some ⟨negative, digits⟩) := by
    cases negative with
    | true => exact .signed (.inl rfl) (.inr rfl) hdigits
    | false => exact .signed (.inl rfl) (.inl rfl) hdigits
  cases h with
  | none => exact .none
  | signed _ _ hdigits => exact hwritten hdigits
  | unsigned _ hdigits => exact hwritten hdigits

/-- What is written for a number is a literal of it. -/
theorem numberText_text (h : NumberText cs n) : NumberText n.text n := by
  obtain ⟨hwhole, hdigits, hdigits', es, hexponent, -⟩ := h
  exact ⟨hwhole, hdigits, hdigits', _, exponentText_exponentText hexponent, rfl⟩

/-! ## Respelling a literal -/

/-- A sign for an exponent that has none. -/
def signed : List Char → List Char
  | [] => ['+']
  | c :: cs => if c = '+' ∨ c = '-' then c :: cs else '+' :: c :: cs

/-- The literal with a small letter in front of its exponent, and a sign behind the letter. -/
def respell : List Char → List Char
  | [] => []
  | c :: cs => if c = 'e' ∨ c = 'E' then 'e' :: signed cs else c :: respell cs

theorem respell_append {as : List Char} (h : ∀ c ∈ as, ¬(c = 'e' ∨ c = 'E')) (bs : List Char) :
    respell (as ++ bs) = as ++ respell bs := by
  induction as with
  | nil => rfl
  | cons c as ih =>
    obtain ⟨hc, has⟩ := List.forall_mem_cons.1 h
    rw [List.cons_append, respell, if_neg hc, ih has, List.cons_append]

theorem not_letter_of_isDigit {c : Char} (h : c.isDigit = true) : ¬(c = 'e' ∨ c = 'E') := by
  rintro (rfl | rfl) <;> exact absurd h (by decide)

theorem respell_exponentText {es : List Char} (h : ExponentText es n.exponent) :
    respell es = n.exponentText := by
  rw [Number.exponentText]
  generalize n.exponent = exponent at h ⊢
  cases h with
  | none => rfl
  | signed hletter hsign =>
    rw [respell, if_pos hletter, signed, if_pos hsign]
    rcases hsign with rfl | rfl <;> rfl
  | unsigned hletter hdigits =>
    obtain ⟨d, ds, rfl⟩ := List.exists_cons_of_ne_nil hdigits.1
    have hd : ¬(d = '+' ∨ d = '-') := by
      rintro (rfl | rfl) <;> exact absurd (hdigits.2 _ List.mem_cons_self) (by decide)
    rw [respell, if_pos hletter, signed, if_neg hd]
    rfl

/-- **What is written is the literal that was sent**, respelled. -/
theorem text_eq_respell (h : NumberText cs n) : n.text = respell cs := by
  obtain ⟨-, hdigits, hdigits', es, hexponent, rfl⟩ := h
  have hsign : ∀ c ∈ n.signText, ¬(c = 'e' ∨ c = 'E') := by
    rw [Number.signText]
    split <;> simp
  have hfraction : ∀ c ∈ n.fractionText, ¬(c = 'e' ∨ c = 'E') := by
    rw [Number.fractionText]
    split
    · simp
    · exact List.forall_mem_cons.2 ⟨by decide, fun c hc => not_letter_of_isDigit (hdigits' c hc)⟩
  rw [respell_append hsign, respell_append fun c hc => not_letter_of_isDigit (hdigits c hc),
    respell_append hfraction, respell_exponentText hexponent, Number.text]

theorem filter_signed (cs : List Char) :
    (signed cs).filter Char.isDigit = cs.filter Char.isDigit := by
  cases cs with
  | nil => rfl
  | cons c cs =>
    rw [signed]
    split <;> rfl

/-- Every digit stays. -/
theorem filter_respell (cs : List Char) :
    (respell cs).filter Char.isDigit = cs.filter Char.isDigit := by
  induction cs with
  | nil => rfl
  | cons c cs ih =>
    rw [respell]
    split
    · rcases ‹c = 'e' ∨ c = 'E'› with rfl | rfl <;> exact filter_signed cs
    · rw [List.filter_cons, List.filter_cons, ih]

/-- So does a minus sign in front, also that of a zero. -/
theorem head?_respell (cs : List Char) : (respell cs).head? = some '-' ↔ cs.head? = some '-' := by
  cases cs with
  | nil => rfl
  | cons c cs =>
    rw [respell]
    split
    · rcases ‹c = 'e' ∨ c = 'E'› with rfl | rfl <;> simp
    · rfl

/-! ## Rational numbers -/

/-- The whole number that the digits spell. -/
def valueOfDigits (ds : List Char) : Nat := Nat.ofDigitChars 10 ds 0

/-- The power of ten that an exponent stands for. -/
def Exponent.value (e : Exponent) : Int :=
  if e.negative then -(valueOfDigits e.digits : Int) else valueOfDigits e.digits

/-- How far to the right the point has to move from behind the last digit. -/
def Number.shift (n : Number) : Int :=
  match n.exponent with
  | none => -(n.fraction.length : Int)
  | some e => e.value - n.fraction.length

/-- The rational number. -/
def Number.toRat (n : Number) : Rat :=
  let magnitude := mkRat (valueOfDigits (n.whole ++ n.fraction) * Nat.pow 10 n.shift.toNat)
    (Nat.pow 10 (-n.shift).toNat)
  if n.negative then -magnitude else magnitude

/-- The literal denotes the rational number. -/
def Denotes (cs : List Char) (q : Rat) : Prop := ∃ n, NumberText cs n ∧ n.toRat = q

/-- A literal denotes what its number is. -/
theorem denotes_iff (h : NumberText cs n) {q : Rat} : Denotes cs q ↔ n.toRat = q := by
  constructor
  · rintro ⟨m, hm, rfl⟩
    rw [← Number.ofLiteral?_eq_some_iff] at h hm
    rw [h] at hm
    cases hm
    rfl
  · exact fun hq => ⟨n, h, hq⟩

/-- **Respelling a literal does not change what it denotes.** -/
theorem denotes_respell_iff (h : NumberText cs n) {q : Rat} :
    Denotes (respell cs) q ↔ Denotes cs q := by
  rw [denotes_iff h, ← text_eq_respell h, denotes_iff (numberText_text h)]

/-- One and a half thousandths, with a zero too many and an exponent without a sign. -/
example : (Number.ofLiteral? ['-', '1', '5', '.', '0', 'E', '-', '4']).map Number.toRat =
    some (mkRat (-3) 2000) := by
  decide

end Json
end TelemetryLog
