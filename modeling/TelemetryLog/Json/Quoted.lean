/-!
# Texts inside JSON

A JSON text stands between double quotes.  `escape` writes its body: quotes, backslashes and
controls below U+0020 are escaped and nothing else is.  `unescape?` reads a body: every escape of
the format is understood, a surrogate escape only as half of a pair, and an unescaped control is
refused.

## What is here

* `escapeChar`, `escape`, `quote` — writing.
* `hexValue?`, `unit?` — the code unit of a `\u` escape.
* `unescape?` — reading.

A body is read from left to right, one character or escape at a time, and every escape takes at
least one character, which is why the reading ends.  A code unit of the first half of a pair must be
followed at once by an escape for the second half; a half that stands alone makes the whole text
unreadable and is not replaced by anything.  Reading undoes writing (`bodyText_escape`), but there
are many bodies for one text, and `Proofs.Json.Texts` says which.
-/

set_option autoImplicit false

namespace TelemetryLog
namespace Json

/-! ## Writing -/

/-- The hexadecimal digit of a number below 16, in lower case. -/
def hexDigit (n : Nat) : Char :=
  if n < 10 then Char.ofNat (48 + n) else Char.ofNat (87 + n)

/-- One character of the body of a text. -/
def escapeChar (c : Char) : List Char :=
  if c = '"' then ['\\', '"']
  else if c = '\\' then ['\\', '\\']
  else if c = '\x08' then ['\\', 'b']
  else if c = '\t' then ['\\', 't']
  else if c = '\n' then ['\\', 'n']
  else if c = '\x0c' then ['\\', 'f']
  else if c = '\r' then ['\\', 'r']
  else if c.toNat < 0x20 then
    ['\\', 'u', '0', '0', hexDigit (c.toNat / 16), hexDigit (c.toNat % 16)]
  else [c]

/-- The body of a text. -/
def escape (cs : List Char) : List Char := cs.flatMap escapeChar

/-- The text between its quotes. -/
def quote (cs : List Char) : List Char := '"' :: (escape cs ++ ['"'])

/-! ## Reading -/

/-- The value of a hexadecimal digit in either case. -/
def hexValue? (c : Char) : Option Nat :=
  if '0' ≤ c ∧ c ≤ '9' then some (c.toNat - 48)
  else if 'a' ≤ c ∧ c ≤ 'f' then some (c.toNat - 87)
  else if 'A' ≤ c ∧ c ≤ 'F' then some (c.toNat - 55)
  else none

/-- The code unit that four hexadecimal digits spell. -/
def unit? (a b c d : Char) : Option Nat :=
  match hexValue? a, hexValue? b, hexValue? c, hexValue? d with
  | some w, some x, some y, some z => some (((w * 16 + x) * 16 + y) * 16 + z)
  | _, _, _, _ => none

/-- Is the code unit the first half of a surrogate pair? -/
def isHighUnit (u : Nat) : Bool := 0xD800 ≤ u && u < 0xDC00

/-- Is the code unit the second half of a surrogate pair? -/
def isLowUnit (u : Nat) : Bool := 0xDC00 ≤ u && u < 0xE000

/-- The character that a surrogate pair stands for. -/
def pairChar (high low : Nat) : Char :=
  Char.ofNat (0x10000 + (high - 0xD800) * 0x400 + (low - 0xDC00))

/-- The character of an escape of one letter. -/
def shortEscape? (c : Char) : Option Char :=
  if c = '"' then some '"'
  else if c = '\\' then some '\\'
  else if c = '/' then some '/'
  else if c = 'b' then some '\x08'
  else if c = 'f' then some '\x0c'
  else if c = 'n' then some '\n'
  else if c = 'r' then some '\r'
  else if c = 't' then some '\t'
  else none

/-- The code unit of the four digits at the front, and what follows them. -/
def takeUnit? : List Char → Option (Nat × List Char)
  | a :: b :: c :: d :: rest => (unit? a b c d).map fun u => (u, rest)
  | _ => none

/-- The character of a surrogate pair whose first half has been read. -/
def takeLow? (high : Nat) : List Char → Option (Char × List Char)
  | '\\' :: 'u' :: cs =>
    match takeUnit? cs with
    | none => none
    | some (low, rest) => if isLowUnit low then some (pairChar high low, rest) else none
  | _ => none

/-- The character of a `\u` escape, after its letter. -/
def takeCoded? (cs : List Char) : Option (Char × List Char) :=
  match takeUnit? cs with
  | none => none
  | some (u, rest) =>
    if isLowUnit u then none
    else if isHighUnit u then takeLow? u rest
    else some (Char.ofNat u, rest)

/-- The character of an escape, after its backslash. -/
def takeEscape? : List Char → Option (Char × List Char)
  | [] => none
  | c :: cs => if c = 'u' then takeCoded? cs else (shortEscape? c).map fun x => (x, cs)

/-- The character at the front of a body, which may be escaped, and what follows it. -/
def takeChar? : List Char → Option (Char × List Char)
  | [] => none
  | c :: cs =>
    if c = '\\' then takeEscape? cs
    else if c.toNat < 0x20 then none
    else some (c, cs)

theorem takeUnit?_length_lt {cs rest : List Char} {u : Nat} (h : takeUnit? cs = some (u, rest)) :
    rest.length < cs.length := by
  unfold takeUnit? at h
  split at h
  · obtain ⟨_, _, h⟩ := Option.map_eq_some_iff.1 h
    simp only [Prod.mk.injEq] at h
    simp only [List.length_cons, ← h.2]
    omega
  · exact absurd h (by simp)

theorem takeLow?_length_lt {high : Nat} {cs rest : List Char} {c : Char}
    (h : takeLow? high cs = some (c, rest)) : rest.length < cs.length := by
  unfold takeLow? at h
  split at h
  · split at h
    · exact absurd h (by simp)
    · rename_i hu
      split at h
      · simp only [Option.some.injEq, Prod.mk.injEq] at h
        have := takeUnit?_length_lt hu
        simp only [List.length_cons, ← h.2]
        omega
      · exact absurd h (by simp)
  · exact absurd h (by simp)

theorem takeCoded?_length_lt {cs rest : List Char} {c : Char}
    (h : takeCoded? cs = some (c, rest)) : rest.length < cs.length := by
  unfold takeCoded? at h
  split at h
  · exact absurd h (by simp)
  · rename_i u rest' hu
    have hu := takeUnit?_length_lt hu
    split at h
    · exact absurd h (by simp)
    · split at h
      · exact Nat.lt_trans (takeLow?_length_lt h) hu
      · simp only [Option.some.injEq, Prod.mk.injEq] at h
        exact h.2 ▸ hu

theorem takeEscape?_length_lt {cs rest : List Char} {c : Char}
    (h : takeEscape? cs = some (c, rest)) : rest.length < cs.length := by
  unfold takeEscape? at h
  split at h
  · exact absurd h (by simp)
  · split at h
    · exact Nat.lt_succ_of_lt (takeCoded?_length_lt h)
    · obtain ⟨_, _, h⟩ := Option.map_eq_some_iff.1 h
      simp only [Prod.mk.injEq] at h
      simp [← h.2]

theorem takeChar?_length_lt {cs rest : List Char} {c : Char}
    (h : takeChar? cs = some (c, rest)) : rest.length < cs.length := by
  unfold takeChar? at h
  split at h
  · exact absurd h (by simp)
  · split at h
    · exact Nat.lt_succ_of_lt (takeEscape?_length_lt h)
    · split at h
      · exact absurd h (by simp)
      · simp only [Option.some.injEq, Prod.mk.injEq] at h
        simp [← h.2]

/-- The characters of a body after those in `done`, which holds the latest first. -/
def unescapeFrom (done : List Char) (cs : List Char) : Option (List Char) :=
  match cs with
  | [] => some done.reverse
  | c :: more =>
    match _h : takeChar? (c :: more) with
    | none => none
    | some (x, rest) => unescapeFrom (x :: done) rest
termination_by cs.length
decreasing_by exact takeChar?_length_lt _h

/-- The characters that a body spells, if all its escapes are of the format and it has no
unescaped control. -/
def unescape? (cs : List Char) : Option (List Char) := unescapeFrom [] cs

end Json
end TelemetryLog
