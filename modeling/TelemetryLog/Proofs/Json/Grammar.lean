import TelemetryLog.Json.Value

/-!
# The grammar of JSON texts

Which texts are JSON values, and what they mean, said without a machine: `ValueText depth cs v`
holds if `cs` is a text of the value `v` inside `depth` open containers, and `ObjectText cs kept` if
it is the text of an object, which is not inside any other, with the members `kept`.

## What is here

* `NumberText` — number literals: the digits are the number, only the exponent has several
  spellings.
* `CharText`, `BodyText` — characters and texts between quotes, with all their escapes.
* `Separated` — what stands between two brackets: parts with commas between them, or only space.
* `Keeps` — which members stay when keys repeat: the last of each key, in the order of keys.
* `Stands` — what an inner object stands for: itself, or the number that its only member spells.
* `ScalarText`, `ValueText`, `ObjectText` — bare tokens, values and whole objects.

## What is particular

The relations are about characters and values and use nothing of the reader, not even its limit of
127 open containers, which is written out in `ValueText`.  Two things are not as in the standard,
because they are not so in the program either: a text with more open containers than that is not the
text of a value, and the key `"$serde_json::private::Number"` is set apart (`Stands`).

No relation is given for a whole text that is a value other than an object, and none for what may
stand around an object.  A line carries an object or nothing, and the space around it is a matter of
`Proofs.Line.Objects`.
-/

set_option autoImplicit false

namespace TelemetryLog
namespace Json

/-! ## Space -/

/-- Nothing but space. -/
def IsSpace (cs : List Char) : Prop := ∀ c ∈ cs, c = ' ' ∨ c = '\t' ∨ c = '\n' ∨ c = '\r'

/-! ## Numbers -/

/-- The spellings of an exponent: the letter may be large, and a plus may be left out. -/
inductive ExponentText : List Char → Option Exponent → Prop
  /-- There is none. -/
  | none : ExponentText [] none
  /-- With a sign. -/
  | signed {letter sign : Char} {digits : List Char} (hletter : letter = 'e' ∨ letter = 'E')
      (hsign : sign = '+' ∨ sign = '-') (hdigits : digits ≠ [] ∧ ∀ d ∈ digits, d.isDigit = true) :
      ExponentText (letter :: sign :: digits) (some ⟨sign = '-', digits⟩)
  /-- Without a sign. -/
  | unsigned {letter : Char} {digits : List Char} (hletter : letter = 'e' ∨ letter = 'E')
      (hdigits : digits ≠ [] ∧ ∀ d ∈ digits, d.isDigit = true) :
      ExponentText (letter :: digits) (some ⟨false, digits⟩)

/-- A number literal: the number as it is written itself, up to the spelling of the exponent. -/
structure NumberText (cs : List Char) (n : Number) : Prop where
  /-- There are digits before the point, and a zero stands alone. -/
  whole : n.whole = ['0'] ∨ ∃ d ds, n.whole = d :: ds ∧ d ≠ '0'
  /-- They are digits. -/
  whole_digits : ∀ d ∈ n.whole, d.isDigit = true
  /-- So are those behind the point; the point is left out if there is none. -/
  fraction_digits : ∀ d ∈ n.fraction, d.isDigit = true
  /-- Behind them comes the exponent. -/
  text : ∃ es, ExponentText es n.exponent ∧
    cs = n.signText ++ (n.whole ++ (n.fractionText ++ es))

/-! ## Texts between quotes -/

/-- The characters with an escape of one letter, with that letter in front. -/
def letterEscapes : List (Char × Char) :=
  [('"', '"'), ('\\', '\\'), ('/', '/'), ('b', '\x08'), ('f', '\x0c'), ('n', '\n'), ('r', '\r'),
    ('t', '\t')]

/-- The hexadecimal digit `c` stands for `n`. -/
inductive HexText (c : Char) (n : Nat) : Prop
  /-- A digit. -/
  | digit (hn : n < 10) (hc : c.toNat = 48 + n)
  /-- A letter from `a` to `f`. -/
  | small (hn : 10 ≤ n ∧ n < 16) (hc : c.toNat = 87 + n)
  /-- A letter from `A` to `F`. -/
  | large (hn : 10 ≤ n ∧ n < 16) (hc : c.toNat = 55 + n)

/-- Four hexadecimal digits that spell a code unit. -/
inductive UnitText : List Char → Nat → Prop
  /-- The digits, most significant first. -/
  | mk {a b c d : Char} {w x y z : Nat} (ha : HexText a w) (hb : HexText b x) (hc : HexText c y)
      (hd : HexText d z) : UnitText [a, b, c, d] (4096 * w + 256 * x + 16 * y + z)

/-- The spellings of a character. -/
inductive CharText : List Char → Char → Prop
  /-- Itself, unless it is a control, a quote or a backslash. -/
  | plain {c : Char} (hcontrol : 0x20 ≤ c.toNat) (hquote : c ≠ '"') (hbackslash : c ≠ '\\') :
      CharText [c] c
  /-- A letter after a backslash. -/
  | letter {e c : Char} (h : (e, c) ∈ letterEscapes) : CharText ['\\', e] c
  /-- Its code unit. -/
  | unit {ds : List Char} {c : Char} (h : UnitText ds c.toNat) : CharText ('\\' :: 'u' :: ds) c
  /-- A pair of surrogates. -/
  | pair {ds ds' : List Char} {high low : Nat} {c : Char} (hds : UnitText ds high)
      (hds' : UnitText ds' low) (hhigh : 0xD800 ≤ high ∧ high < 0xDC00)
      (hlow : 0xDC00 ≤ low ∧ low < 0xE000)
      (hc : c.toNat = 0x10000 + 0x400 * (high - 0xD800) + (low - 0xDC00)) :
      CharText ('\\' :: 'u' :: (ds ++ '\\' :: 'u' :: ds')) c

/-- The spellings of a text, character by character. -/
inductive BodyText : List Char → List Char → Prop
  /-- No character. -/
  | nil : BodyText [] []
  /-- One character more. -/
  | cons {cs more xs : List Char} {x : Char} (hx : CharText cs x) (hxs : BodyText more xs) :
      BodyText (cs ++ more) (x :: xs)

/-! ## Items and members -/

/-- A value as it stands in a container, with space around it. -/
structure Item where
  /-- The space before it. -/
  before : List Char
  /-- Its text. -/
  text : List Char
  /-- The space after it. -/
  after : List Char
  /-- The value. -/
  value : Json

/-- An item as it is written. -/
def Item.chars (i : Item) : List Char := i.before ++ (i.text ++ i.after)

/-- There is only space around the value. -/
def Item.isSpaced (i : Item) : Prop := IsSpace i.before ∧ IsSpace i.after

/-- A member as it stands in an object. -/
structure Member where
  /-- The space before its key. -/
  before : List Char
  /-- The text of the key between its quotes. -/
  body : List Char
  /-- The space after the key. -/
  after : List Char
  /-- The key. -/
  key : String
  /-- What stands behind the colon. -/
  item : Item

/-- A member as it is written. -/
def Member.chars (m : Member) : List Char :=
  m.before ++ '"' :: (m.body ++ '"' :: (m.after ++ ':' :: m.item.chars))

/-- The key is spelled right, and there is only space around it and around the value. -/
def Member.isSpelled (m : Member) : Prop :=
  IsSpace m.before ∧ BodyText m.body m.key.toList ∧ IsSpace m.after ∧ m.item.isSpaced

/-- The key and the value of a member. -/
def Member.entry (m : Member) : String × Json := (m.key, m.item.value)

/-- What stands between two brackets: parts with commas between them, or only space if there is no
part. -/
inductive Separated : List (List Char) → List Char → Prop
  /-- No part. -/
  | none {cs : List Char} (h : IsSpace cs) : Separated [] cs
  /-- Some parts; there is a comma behind each but the last. -/
  | some (front : List (List Char)) (last : List Char) :
      Separated (front ++ [last]) (front.flatMap (· ++ [',']) ++ last)

/-! ## Members with one key -/

/-- What stays of the members that were sent: of members with one key the last, in ascending order
of the keys. -/
structure Keeps (sent kept : List (String × Json)) : Prop where
  /-- The keys ascend, so there is one member for each. -/
  sorted : kept.Pairwise fun a b => a.1 < b.1
  /-- A member stays if none with its key comes after it. -/
  mem : ∀ m, m ∈ kept ↔
    ∃ before after, sent = before ++ m :: after ∧ ∀ m' ∈ after, m'.1 ≠ m.1

/-- What an inner object with these members stands for.  An object whose first key is the one that
is set apart for numbers is no object: it must have no other member, and the text of that one must
be a number literal. -/
inductive Stands : List (String × Json) → Json → Prop
  /-- An object. -/
  | object {sent kept : List (String × Json)}
      (hfirst : ∀ m ∈ sent.head?, m.1 ≠ "$serde_json::private::Number") (hkept : Keeps sent kept) :
      Stands sent (.object kept)
  /-- A number. -/
  | number {s : String} {n : Number} (h : NumberText s.toList n) :
      Stands [("$serde_json::private::Number", .text s)] (.number n)

/-! ## Values -/

/-- The texts of the values that are written without quotes and brackets. -/
inductive ScalarText : List Char → Json → Prop
  /-- The word `null`. -/
  | null : ScalarText ['n', 'u', 'l', 'l'] .null
  /-- The word `true`. -/
  | yes : ScalarText ['t', 'r', 'u', 'e'] (.bool true)
  /-- The word `false`. -/
  | no : ScalarText ['f', 'a', 'l', 's', 'e'] (.bool false)
  /-- A number literal. -/
  | number {cs : List Char} {n : Number} (h : NumberText cs n) : ScalarText cs (.number n)

/-- The text is a value inside so many open containers, of which there can be at most 127. -/
inductive ValueText : Nat → List Char → Json → Prop
  /-- A word or a number. -/
  | scalar {depth : Nat} {cs : List Char} {v : Json} (h : ScalarText cs v) : ValueText depth cs v
  /-- A text between quotes. -/
  | text {depth : Nat} {cs : List Char} {s : String} (h : BodyText cs s.toList) :
      ValueText depth ('"' :: (cs ++ ['"'])) (.text s)
  /-- An array. -/
  | array {depth : Nat} {cs : List Char} {items : List Item} (hdepth : depth < 127)
      (hspaced : ∀ i ∈ items, i.isSpaced)
      (hitems : ∀ i ∈ items, ValueText (depth + 1) i.text i.value)
      (hcs : Separated (items.map Item.chars) cs) :
      ValueText depth ('[' :: (cs ++ [']'])) (.array (items.map Item.value))
  /-- An object. -/
  | object {depth : Nat} {cs : List Char} {members : List Member} {v : Json} (hdepth : depth < 127)
      (hspelled : ∀ m ∈ members, m.isSpelled)
      (hitems : ∀ m ∈ members, ValueText (depth + 1) m.item.text m.item.value)
      (hcs : Separated (members.map Member.chars) cs)
      (hv : Stands (members.map Member.entry) v) :
      ValueText depth ('\x7b' :: (cs ++ ['\x7d'])) v

/-- The text is an object that is not inside any other, with these members. -/
inductive ObjectText : List Char → List (String × Json) → Prop
  /-- Its members between braces. -/
  | mk {cs : List Char} {members : List Member} {kept : List (String × Json)}
      (hspelled : ∀ m ∈ members, m.isSpelled)
      (hitems : ∀ m ∈ members, ValueText 1 m.item.text m.item.value)
      (hcs : Separated (members.map Member.chars) cs)
      (hkept : Keeps (members.map Member.entry) kept) : ObjectText ('\x7b' :: (cs ++ ['\x7d'])) kept

end Json
end TelemetryLog
