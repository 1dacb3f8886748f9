/-!
# UTF-8

Texts as bytes and bytes as text.  Reading cuts the bytes into `Piece`s: a well-formed character,
or the longest run of bytes that starts like a character and breaks off.  Every other reading is a
view of the pieces: `lossy` puts U+FFFD for each broken run, `decode?` refuses them, and
`validLength` tells how far the bytes are well formed.

## What is here

* `encode` — the bytes of a text.
* `Piece`, `pieces` — bytes cut into characters and broken runs.
* `lossy`, `decode?`, `validLength` — the three readings.

How long a broken run is decides how many U+FFFD are shown, and the rule is that of the standard:
the longest run that could still have become a character counts as one.  So the range of the second
byte depends on the first (`lead?`), which also keeps out surrogates, characters spelled too long,
and everything above the last code point.
-/

set_option autoImplicit false

namespace TelemetryLog
namespace Utf8

/-- The bytes of a list of characters. -/
def encodeChars (cs : List Char) : List UInt8 := cs.flatMap String.utf8EncodeChar

/-- The bytes of a text. -/
def encode (s : String) : List UInt8 := encodeChars s.toList

/-- A well-formed character, or the bytes of one that breaks off. -/
inductive Piece where
  /-- A well-formed character. -/
  | char (c : Char)
  /-- The longest run that starts like a character but does not end as one. -/
  | broken (bytes : List UInt8)
deriving DecidableEq, Repr

/-- How many continuation bytes a lead byte asks for, and the range of the first of them, which is
narrower where the wider one would allow overlong forms, surrogates or code points past U+10FFFF. -/
def lead? (b : UInt8) : Option (Nat × UInt8 × UInt8) :=
  if b < 0x80 then some (0, 0x80, 0xBF)
  else if b < 0xC2 then none
  else if b < 0xE0 then some (1, 0x80, 0xBF)
  else if b = 0xE0 then some (2, 0xA0, 0xBF)
  else if b = 0xED then some (2, 0x80, 0x9F)
  else if b < 0xF0 then some (2, 0x80, 0xBF)
  else if b = 0xF0 then some (3, 0x90, 0xBF)
  else if b < 0xF4 then some (3, 0x80, 0xBF)
  else if b = 0xF4 then some (3, 0x80, 0x8F)
  else none

/-- The six low bits of a continuation byte. -/
def tailBits (b : UInt8) : Nat := b.toNat % 64

/-- The bits that a lead byte with `n` continuation bytes contributes. -/
def leadBits (n : Nat) (b : UInt8) : Nat :=
  match n with
  | 0 => b.toNat
  | 1 => b.toNat % 32
  | 2 => b.toNat % 16
  | _ => b.toNat % 8

/-- The well-formed continuation bytes at the front, at most `n`; the first must lie in `[lo, hi]`
and the later ones are plain continuation bytes. -/
def tails (lo hi : UInt8) : Nat → List UInt8 → List UInt8
  | 0, _ => []
  | _, [] => []
  | n + 1, b :: bs => if lo ≤ b && b ≤ hi then b :: tails 0x80 0xBF n bs else []

/-- The first piece of a sequence that starts with `b`, and the number of bytes after `b` that it
takes. -/
def piece (b : UInt8) (bs : List UInt8) : Piece × Nat :=
  match lead? b with
  | none => (.broken [b], 0)
  | some (n, lo, hi) =>
    let ts := tails lo hi n bs
    if ts.length = n then
      (.char (Char.ofNat (ts.foldl (fun v t => v * 64 + tailBits t) (leadBits n b))), n)
    else (.broken (b :: ts), ts.length)

/-- The pieces of a byte sequence after those in `done`, which holds the latest first. -/
def piecesFrom (done : List Piece) : List UInt8 → List Piece
  | [] => done.reverse
  | b :: bs => piecesFrom ((piece b bs).1 :: done) (bs.drop (piece b bs).2)
termination_by bs => bs.length
decreasing_by simp only [List.length_drop, List.length_cons]; omega

/-- The bytes cut into characters and broken runs. -/
def pieces (bs : List UInt8) : List Piece := piecesFrom [] bs

/-- The text of the bytes, with U+FFFD for every broken run. -/
def lossy (bs : List UInt8) : List Char :=
  (pieces bs).map fun
    | .char c => c
    | .broken _ => '\uFFFD'

/-- How many bytes from the front are well formed. -/
def validLength (bs : List UInt8) : Nat :=
  let good := (pieces bs).takeWhile fun
    | .char _ => true
    | .broken _ => false
  good.foldl (fun n p => match p with
    | .char c => n + c.utf8Size
    | .broken _ => n) 0

/-- The text of the bytes, if all of them are well formed. -/
def decode? (bs : List UInt8) : Option (List Char) :=
  (pieces bs).mapM fun
    | .char c => some c
    | .broken _ => none

/-- The bytes as a text, with U+FFFD for every broken run. -/
def lossyText (bs : List UInt8) : String := String.ofList (lossy bs)

/-- The bytes as a text, if all of them are well formed. -/
def text? (bs : List UInt8) : Option String := (decode? bs).map String.ofList

end Utf8
end TelemetryLog
