import TelemetryLog.Proofs.Json.Grammar

/-!
# What the compact text of a value is

`Json.render` writes a value.  What it is to write one is said here without it, in the way
`Proofs.Csv.Written` says it of rows: `CompactText v cs` holds if `cs` is the text of the value `v`
with no space in it, and with every character and every number in the one spelling that is written.

* **A character** is written as itself, unless it is a quote, a backslash or a control.  Those are
  written with the letter they have in the format, and the controls that have none as their code
  unit in four digits (`CompactChar`).  A slash has a letter too, and is written as itself.
* **A number** is its digits, with a minus, a point and an exponent where it has them.  The exponent
  has a small letter and always a sign (`CompactNumber`).
* **Items and members** are separated by commas, in the order in which the value has them.

The grammar of `Proofs.Json.Grammar` says which texts are read as a value, and there are many for
each; here there is just one (`compactText_iff`).  That it is among them is true of values that were
read, with an exception, and is shown in `Proofs.Json.Rendering`.  The relation itself asks nothing
of a value: its keys need not be in order, and its numbers need not be numbers.
-/

set_option autoImplicit false

namespace TelemetryLog
namespace Json

/-! ## Numbers -/

/-- The sign in front of a number. -/
inductive SignText : Bool → List Char → Prop
  /-- A minus. -/
  | minus : SignText true ['-']
  /-- None. -/
  | none : SignText false []

/-- The point and the digits behind it. -/
inductive PointText : List Char → List Char → Prop
  /-- There are no digits, and no point. -/
  | none : PointText [] []
  /-- There are some. -/
  | digits {d : Char} {ds : List Char} : PointText (d :: ds) ('.' :: d :: ds)

/-- The exponent with its letter and its sign. -/
inductive PowerText : Option Exponent → List Char → Prop
  /-- There is none. -/
  | none : PowerText none []
  /-- It is positive. -/
  | plus {ds : List Char} : PowerText (some ⟨false, ds⟩) ('e' :: '+' :: ds)
  /-- It is negative. -/
  | minus {ds : List Char} : PowerText (some ⟨true, ds⟩) ('e' :: '-' :: ds)

/-- A number as it is written. -/
inductive CompactNumber (n : Number) : List Char → Prop
  /-- Its parts, one behind the other. -/
  | mk {sign point power : List Char} (hsign : SignText n.negative sign)
    (hpoint : PointText n.fraction point) (hpower : PowerText n.exponent power) :
    CompactNumber n (sign ++ (n.whole ++ (point ++ power)))

theorem signText_iff {n : Number} {cs : List Char} :
    SignText n.negative cs ↔ cs = n.signText := by
  rw [Number.signText]
  cases n.negative with
  | true => exact ⟨fun | .minus => rfl, fun h => h ▸ .minus⟩
  | false => exact ⟨fun | .none => rfl, fun h => h ▸ .none⟩

theorem pointText_iff {n : Number} {cs : List Char} :
    PointText n.fraction cs ↔ cs = n.fractionText := by
  rw [Number.fractionText]
  cases n.fraction with
  | nil => exact ⟨fun | .none => rfl, fun h => h ▸ .none⟩
  | cons d ds => exact ⟨fun | .digits => rfl, fun h => h ▸ .digits⟩

theorem powerText_iff {n : Number} {cs : List Char} :
    PowerText n.exponent cs ↔ cs = n.exponentText := by
  rw [Number.exponentText]
  rcases n.exponent with _ | ⟨_ | _, ds⟩
  · exact ⟨fun | .none => rfl, fun h => h ▸ .none⟩
  · exact ⟨fun | .plus => rfl, fun h => h ▸ .plus⟩
  · exact ⟨fun | .minus => rfl, fun h => h ▸ .minus⟩

theorem compactNumber_iff {n : Number} {cs : List Char} : CompactNumber n cs ↔ cs = n.text := by
  constructor
  · rintro ⟨hsign, hpoint, hpower⟩
    rw [signText_iff.1 hsign, pointText_iff.1 hpoint, powerText_iff.1 hpower, Number.text]
  · rintro rfl
    exact .mk (signText_iff.2 rfl) (pointText_iff.2 rfl) (powerText_iff.2 rfl)

/-! ## Texts between quotes -/

/-- A character as it is written between quotes. -/
inductive CompactChar (c : Char) : List Char → Prop
  /-- It has a letter, and is no slash. -/
  | letter {e : Char} (hslash : c ≠ '/') (h : (e, c) ∈ letterEscapes) : CompactChar c ['\\', e]
  /-- It is a control without a letter. -/
  | unit (hnone : ∀ e, (e, c) ∉ letterEscapes) (hcontrol : c.toNat < 0x20) :
    CompactChar c ['\\', 'u', '0', '0', (c.toNat / 16).digitChar, (c.toNat % 16).digitChar]
  /-- It stands as it is. -/
  | plain (hcontrol : 0x20 ≤ c.toNat) (hquote : c ≠ '"') (hbackslash : c ≠ '\\') :
    CompactChar c [c]

/-- Characters as they are written between quotes. -/
inductive CompactBody : List Char → List Char → Prop
  /-- No character. -/
  | nil : CompactBody [] []
  /-- One more in front. -/
  | cons {c : Char} {xs cs more : List Char} (hc : CompactChar c cs) (hmore : CompactBody xs more) :
    CompactBody (c :: xs) (cs ++ more)

theorem hexDigit_eq_digitChar {n : Nat} (h : n < 16) : hexDigit n = n.digitChar := by
  have hall : ∀ m : Fin 16, hexDigit m = (m : Nat).digitChar := by decide
  exact hall ⟨n, h⟩

/-- The characters that have a letter. -/
theorem exists_mem_letterEscapes_iff {c : Char} :
    (∃ e, (e, c) ∈ letterEscapes) ↔
      c = '"' ∨ c = '\\' ∨ c = '/' ∨ c = '\x08' ∨ c = '\x0c' ∨ c = '\n' ∨ c = '\r' ∨ c = '\t' := by
  simp [letterEscapes, exists_or]

theorem compactChar_escapeChar (c : Char) : CompactChar c (escapeChar c) := by
  rw [escapeChar]
  -- the characters with a letter of their own
  iterate 7
    split
    · obtain rfl := ‹c = _›
      exact .letter (by decide) (by decide)
  split
  · rename_i hcontrol
    have hslash : c ≠ '/' := by
      rintro rfl
      exact absurd hcontrol (by decide)
    rw [hexDigit_eq_digitChar (by omega), hexDigit_eq_digitChar (by omega)]
    refine .unit (not_exists.1 fun h => ?_) hcontrol
    simp_all [exists_mem_letterEscapes_iff]
  · exact .plain (by omega) ‹_› ‹_›

/-- Every character is written in one way, and it is the way the writer has. -/
theorem compactChar_iff {c : Char} {cs : List Char} : CompactChar c cs ↔ cs = escapeChar c := by
  constructor
  · intro h
    cases h with
    | letter hslash h =>
      simp only [letterEscapes, List.mem_cons, Prod.mk.injEq, List.not_mem_nil, or_false] at h
      rcases h with ⟨rfl, rfl⟩ | ⟨rfl, rfl⟩ | ⟨rfl, rfl⟩ | ⟨rfl, rfl⟩ | ⟨rfl, rfl⟩ | ⟨rfl, rfl⟩ |
        ⟨rfl, rfl⟩ | ⟨rfl, rfl⟩
      case inr.inr.inl => exact absurd rfl hslash
      all_goals rfl
    | unit hnone hcontrol =>
      have hnone := mt exists_mem_letterEscapes_iff.2 (not_exists.2 hnone)
      rw [← hexDigit_eq_digitChar (by omega), ← hexDigit_eq_digitChar (by omega)]
      simp_all [escapeChar]
    | plain hcontrol hquote hbackslash =>
      have hne (d : Char) (hd : d.toNat < 0x20) : c ≠ d := by
        rintro rfl
        omega
      rw [escapeChar, if_neg hquote, if_neg hbackslash, if_neg (hne _ (by decide)),
        if_neg (hne _ (by decide)), if_neg (hne _ (by decide)), if_neg (hne _ (by decide)),
        if_neg (hne _ (by decide)), if_neg (Nat.not_lt.2 hcontrol)]
  · rintro rfl
    exact compactChar_escapeChar c

theorem compactBody_iff {xs cs : List Char} : CompactBody xs cs ↔ cs = escape xs := by
  constructor
  · intro h
    induction h with
    | nil => rfl
    | cons hc _ ih => rw [compactChar_iff.1 hc, ih, escape, escape, List.flatMap_cons]
  · rintro rfl
    induction xs with
    | nil => exact .nil
    | cons c xs ih => exact .cons (compactChar_iff.2 rfl) ih

/-! ## Values -/

mutual

/-- The compact text of a value. -/
inductive CompactText : Json → List Char → Prop
  /-- The value `null`. -/
  | null : CompactText .null ['n', 'u', 'l', 'l']
  /-- The value `true`. -/
  | yes : CompactText (.bool true) ['t', 'r', 'u', 'e']
  /-- The value `false`. -/
  | no : CompactText (.bool false) ['f', 'a', 'l', 's', 'e']
  /-- A number. -/
  | number {n : Number} {cs : List Char} (h : CompactNumber n cs) : CompactText (.number n) cs
  /-- A text between its quotes. -/
  | text {s : String} {cs : List Char} (h : CompactBody s.toList cs) :
    CompactText (.text s) ('"' :: (cs ++ ['"']))
  /-- An array between its brackets. -/
  | array {items : List Json} {cs : List Char} (h : CompactItems items cs) :
    CompactText (.array items) ('[' :: (cs ++ [']']))
  /-- An object between its braces. -/
  | object {members : List (String × Json)} {cs : List Char} (h : CompactMembers members cs) :
    CompactText (.object members) ('\x7b' :: (cs ++ ['\x7d']))

/-- Items with commas between them. -/
inductive CompactItems : List Json → List Char → Prop
  /-- No item. -/
  | nil : CompactItems [] []
  /-- The last item. -/
  | last {v : Json} {cs : List Char} (h : CompactText v cs) : CompactItems [v] cs
  /-- An item that others follow. -/
  | more {v w : Json} {items : List Json} {cs more : List Char} (h : CompactText v cs)
    (hmore : CompactItems (w :: items) more) : CompactItems (v :: w :: items) (cs ++ ',' :: more)

/-- Members with commas between them. -/
inductive CompactMembers : List (String × Json) → List Char → Prop
  /-- No member. -/
  | nil : CompactMembers [] []
  /-- The last member. -/
  | last {key : String} {v : Json} {ks cs : List Char} (hkey : CompactBody key.toList ks)
    (h : CompactText v cs) : CompactMembers [(key, v)] ('"' :: (ks ++ '"' :: ':' :: cs))
  /-- A member that others follow. -/
  | more {key : String} {v : Json} {m : String × Json} {members : List (String × Json)}
    {ks cs more : List Char} (hkey : CompactBody key.toList ks) (h : CompactText v cs)
    (hmore : CompactMembers (m :: members) more) :
    CompactMembers ((key, v) :: m :: members) ('"' :: (ks ++ '"' :: ':' :: (cs ++ ',' :: more)))

end

mutual

/-- **A value has one compact text, and it is the one that is written.** -/
theorem compactText_iff (v : Json) {cs : List Char} : CompactText v cs ↔ cs = render v := by
  cases v with
  | null => exact ⟨fun | .null => rfl, fun h => h ▸ .null⟩
  | bool b =>
    cases b with
    | true => exact ⟨fun | .yes => rfl, fun h => h ▸ .yes⟩
    | false => exact ⟨fun | .no => rfl, fun h => h ▸ .no⟩
  | number n =>
    rw [render, ← compactNumber_iff]
    exact ⟨fun | .number h => h, .number⟩
  | text s =>
    rw [render, quote]
    constructor
    · intro h
      cases h with
      | text h => rw [compactBody_iff.1 h]
    · rintro rfl
      exact .text (compactBody_iff.2 rfl)
  | array items =>
    rw [render]
    constructor
    · intro h
      cases h with
      | array h => rw [(compactItems_iff items).1 h]
    · rintro rfl
      exact .array ((compactItems_iff items).2 rfl)
  | object members =>
    rw [render]
    constructor
    · intro h
      cases h with
      | object h => rw [(compactMembers_iff members).1 h]
    · rintro rfl
      exact .object ((compactMembers_iff members).2 rfl)

theorem compactItems_iff (items : List Json) {cs : List Char} :
    CompactItems items cs ↔ cs = renderItems items := by
  match items with
  | [] => exact ⟨fun | .nil => rfl, fun h => h ▸ .nil⟩
  | [v] =>
    rw [renderItems, ← compactText_iff v]
    exact ⟨fun | .last h => h, .last⟩
  | v :: w :: items =>
    rw [renderItems]
    constructor
    · intro h
      cases h with
      | more h hmore => rw [(compactText_iff v).1 h, (compactItems_iff (w :: items)).1 hmore]
    · rintro rfl
      exact .more ((compactText_iff v).2 rfl) ((compactItems_iff (w :: items)).2 rfl)

theorem compactMembers_iff (members : List (String × Json)) {cs : List Char} :
    CompactMembers members cs ↔ cs = renderMembers members := by
  match members with
  | [] => exact ⟨fun | .nil => rfl, fun h => h ▸ .nil⟩
  | [(key, v)] =>
    rw [renderMembers, quote, List.cons_append, List.append_assoc]
    constructor
    · intro h
      cases h with
      | last hkey h => rw [compactBody_iff.1 hkey, (compactText_iff v).1 h]; rfl
    · rintro rfl
      exact .last (compactBody_iff.2 rfl) ((compactText_iff v).2 rfl)
  | (key, v) :: m :: members =>
    rw [renderMembers, quote, List.cons_append, List.append_assoc]
    constructor
    · intro h
      cases h with
      | more hkey h hmore =>
        rw [compactBody_iff.1 hkey, (compactText_iff v).1 h,
          (compactMembers_iff (m :: members)).1 hmore]
        rfl
    · rintro rfl
      exact .more (compactBody_iff.2 rfl) ((compactText_iff v).2 rfl)
        ((compactMembers_iff (m :: members)).2 rfl)

end

/-- A slash, a tab, a control without a letter, and a number that keeps all its digits. -/
example : CompactText (.array [.text "/\t\x1f", .number ⟨true, ['0'], ['5', '0'], none⟩])
    "[\"/\\t\\u001f\",-0.50]".toList := by
  rw [compactText_iff]
  decide

end Json
end TelemetryLog
