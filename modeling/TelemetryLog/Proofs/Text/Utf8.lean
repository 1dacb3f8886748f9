import TelemetryLog.Text.Utf8

/-!
# Texts survive as bytes

The bytes of a text are well formed, and reading them gives the text back (`text?_encode`).  So
different texts have different bytes (`encode_injective`).

The reader takes pieces of bytes from the front: a character, or bytes that are none.  It looks at
the lead byte for the number of bytes that follow and for the range of the first of them, which is
narrower behind some lead bytes so that no character has two encodings.  For a character of each
length it is shown that its own bytes pass (`piece_one` to `piece_four`), and that the bits which
are taken out of them are those that were put in (`tailBits_six_bits`).

Only this direction is needed.  What becomes of bytes that are not UTF-8 is defined in `Text.Utf8`,
and that reading gives some text for them too is not a matter of proof.
-/

set_option autoImplicit false

namespace TelemetryLog
namespace Utf8

/-! ## One character -/

section Lead

variable {b : UInt8}

theorem lead?_one (h : b.toNat < 0x80) : lead? b = some (0, 0x80, 0xBF) := by
  simp only [lead?, UInt8.lt_iff_toNat_lt, UInt8.reduceToNat]
  rw [if_pos h]

theorem lead?_two (h : 0xC2 ≤ b.toNat) (h' : b.toNat < 0xE0) :
    lead? b = some (1, 0x80, 0xBF) := by
  simp only [lead?, UInt8.lt_iff_toNat_lt, UInt8.reduceToNat]
  rw [if_neg (by omega), if_neg (by omega), if_pos h']

/-- The first continuation byte of three bytes has a narrower range after two of the lead bytes. -/
theorem lead?_three (h : 0xE0 ≤ b.toNat) (h' : b.toNat < 0xF0) :
    ∃ lo hi, lead? b = some (2, lo, hi) ∧ lo.toNat = (if b.toNat = 0xE0 then 0xA0 else 0x80) ∧
      hi.toNat = (if b.toNat = 0xED then 0x9F else 0xBF) := by
  simp only [lead?, UInt8.lt_iff_toNat_lt, ← UInt8.toNat_inj, UInt8.reduceToNat]
  rw [if_neg (by omega), if_neg (by omega), if_neg (by omega)]
  by_cases hfirst : b.toNat = 0xE0
  · exact ⟨0xA0, 0xBF, by simp [hfirst]⟩
  · by_cases hlast : b.toNat = 0xED
    · exact ⟨0x80, 0x9F, by simp [hlast]⟩
    · exact ⟨0x80, 0xBF, by simp [hfirst, hlast, h']⟩

theorem lead?_four (h : 0xF0 ≤ b.toNat) (h' : b.toNat ≤ 0xF4) :
    ∃ lo hi, lead? b = some (3, lo, hi) ∧ lo.toNat = (if b.toNat = 0xF0 then 0x90 else 0x80) ∧
      hi.toNat = (if b.toNat = 0xF4 then 0x8F else 0xBF) := by
  simp only [lead?, UInt8.lt_iff_toNat_lt, ← UInt8.toNat_inj, UInt8.reduceToNat]
  rw [if_neg (by omega), if_neg (by omega), if_neg (by omega), if_neg (by omega),
    if_neg (by omega), if_neg (by omega)]
  by_cases hfirst : b.toNat = 0xF0
  · exact ⟨0x90, 0xBF, by simp [hfirst]⟩
  · by_cases hlast : b.toNat = 0xF4
    · exact ⟨0x80, 0x8F, by simp [hlast]⟩
    · exact ⟨0x80, 0xBF, by simp [hfirst, hlast, show b.toNat < 0xF4 by omega]⟩

end Lead

theorem tails_cons {lo hi b : UInt8} (n : Nat) (bs : List UInt8) (h : lo.toNat ≤ b.toNat)
    (h' : b.toNat ≤ hi.toNat) : tails lo hi (n + 1) (b :: bs) = b :: tails 0x80 0xBF n bs := by
  simp [tails, UInt8.le_iff_toNat_le, h, h']

theorem toNat_ofNat {n : Nat} (h : n < 256) : (UInt8.ofNat n).toNat = n := by
  rw [UInt8.toNat_ofNat', Nat.mod_eq_of_lt h]

/-- A continuation byte of a character is one that any range of continuation bytes allows. -/
theorem tails_six_bits (v n : Nat) (bs : List UInt8) :
    tails 0x80 0xBF (n + 1) (UInt8.ofNat (v % 64 + 0x80) :: bs) =
      UInt8.ofNat (v % 64 + 0x80) :: tails 0x80 0xBF n bs := by
  have h := toNat_ofNat (show v % 64 + 0x80 < 256 by omega)
  refine tails_cons n bs ?_ ?_ <;> rw [h] <;> simp only [UInt8.reduceToNat] <;> omega

theorem tailBits_six_bits (v : Nat) : tailBits (UInt8.ofNat (v % 64 + 0x80)) = v % 64 := by
  rw [tailBits, toNat_ofNat (by omega)]
  omega

/-- A lead byte with all its continuation bytes is a character. -/
theorem piece_of_tails {b lo hi : UInt8} {n : Nat} {ts bs : List UInt8}
    (hlead : lead? b = some (n, lo, hi)) (htails : tails lo hi n bs = ts) (hlen : ts.length = n) :
    piece b bs =
      (.char (Char.ofNat (ts.foldl (fun v t => v * 64 + tailBits t) (leadBits n b))), n) := by
  simp [piece, hlead, htails, hlen]

section Bytes

variable {v : Nat} (rest : List UInt8)

theorem piece_one (h : v ≤ 0x7F) : piece (UInt8.ofNat v) rest = (.char (Char.ofNat v), 0) := by
  have hb := toNat_ofNat (show v < 256 by omega)
  rw [piece_of_tails (lead?_one (by omega)) rfl rfl, tails, List.foldl_nil, leadBits, hb]

theorem piece_two (h : 0x7F < v) (h' : v ≤ 0x7FF) :
    piece (UInt8.ofNat (v / 64 % 0x20 + 0xC0)) (UInt8.ofNat (v % 64 + 0x80) :: rest) =
      (.char (Char.ofNat v), 1) := by
  have hb := toNat_ofNat (show v / 64 % 0x20 + 0xC0 < 256 by omega)
  rw [piece_of_tails (lead?_two (by omega) (by omega)) (tails_six_bits v 0 rest) rfl]
  simp only [List.foldl_cons, tails, List.foldl_nil, tailBits_six_bits, leadBits, hb]
  rw [show (v / 64 % 0x20 + 0xC0) % 32 * 64 + v % 64 = v by omega]

theorem piece_three (h : 0x7FF < v) (h' : v ≤ 0xFFFF) (hv : v < 0xD800 ∨ 0xDFFF < v) :
    piece (UInt8.ofNat (v / 4096 % 0x10 + 0xE0))
        (UInt8.ofNat (v / 64 % 64 + 0x80) :: UInt8.ofNat (v % 64 + 0x80) :: rest) =
      (.char (Char.ofNat v), 2) := by
  have hb := toNat_ofNat (show v / 4096 % 0x10 + 0xE0 < 256 by omega)
  have ht := toNat_ofNat (show v / 64 % 64 + 0x80 < 256 by omega)
  obtain ⟨lo, hi, hlead, hlo, hhi⟩ := lead?_three
    (show 0xE0 ≤ (UInt8.ofNat (v / 4096 % 0x10 + 0xE0)).toNat by omega) (by omega)
  rw [hb] at hlo hhi
  have htails := tails_cons 1 (UInt8.ofNat (v % 64 + 0x80) :: rest)
    (show lo.toNat ≤ (UInt8.ofNat (v / 64 % 64 + 0x80)).toNat by rw [hlo, ht]; split <;> omega)
    (show _ ≤ hi.toNat by rw [hhi, ht]; split <;> omega)
  rw [tails_six_bits] at htails
  rw [piece_of_tails hlead htails rfl]
  simp only [List.foldl_cons, tails, List.foldl_nil, tailBits_six_bits, leadBits, hb]
  rw [show ((v / 4096 % 0x10 + 0xE0) % 16 * 64 + v / 64 % 64) * 64 + v % 64 = v by omega]

theorem piece_four (h : 0xFFFF < v) (h' : v < 0x110000) :
    piece (UInt8.ofNat (v / 262144 % 0x08 + 0xF0))
        (UInt8.ofNat (v / 4096 % 64 + 0x80) :: UInt8.ofNat (v / 64 % 64 + 0x80) ::
          UInt8.ofNat (v % 64 + 0x80) :: rest) =
      (.char (Char.ofNat v), 3) := by
  have hb := toNat_ofNat (show v / 262144 % 0x08 + 0xF0 < 256 by omega)
  have ht := toNat_ofNat (show v / 4096 % 64 + 0x80 < 256 by omega)
  obtain ⟨lo, hi, hlead, hlo, hhi⟩ := lead?_four
    (show 0xF0 ≤ (UInt8.ofNat (v / 262144 % 0x08 + 0xF0)).toNat by omega) (by omega)
  rw [hb] at hlo hhi
  have htails := tails_cons 2
    (UInt8.ofNat (v / 64 % 64 + 0x80) :: UInt8.ofNat (v % 64 + 0x80) :: rest)
    (show lo.toNat ≤ (UInt8.ofNat (v / 4096 % 64 + 0x80)).toNat by rw [hlo, ht]; split <;> omega)
    (show _ ≤ hi.toNat by rw [hhi, ht]; split <;> omega)
  rw [tails_six_bits, tails_six_bits] at htails
  rw [piece_of_tails hlead htails rfl]
  simp only [List.foldl_cons, tails, List.foldl_nil, tailBits_six_bits, leadBits, hb]
  rw [show (((v / 262144 % 0x08 + 0xF0) % 8 * 64 + v / 4096 % 64) * 64 + v / 64 % 64) * 64 +
    v % 64 = v by omega]

end Bytes

/-- Reading the bytes of a character gives the character, whatever follows. -/
theorem piece_encodeChar (c : Char) (rest : List UInt8) :
    ∃ b bs, String.utf8EncodeChar c = b :: bs ∧ piece b (bs ++ rest) = (.char c, bs.length) := by
  have hvalid := c.valid
  rw [UInt32.isValidChar, Nat.isValidChar] at hvalid
  have hc : Char.ofNat c.val.toNat = c := c.ofNat_toNat
  rw [String.utf8EncodeChar]
  generalize c.val.toNat = v at hvalid hc
  rw [← hc]
  split
  · exact ⟨_, _, rfl, piece_one rest (by omega)⟩
  · split
    · exact ⟨_, _, rfl, piece_two rest (by omega) (by omega)⟩
    · split
      · exact ⟨_, _, rfl, piece_three rest (by omega) (by omega) (by omega)⟩
      · exact ⟨_, _, rfl, piece_four rest (by omega) (by omega)⟩

/-! ## Texts -/

theorem piecesFrom_cons (done : List Piece) (b : UInt8) (bs : List UInt8) :
    piecesFrom done (b :: bs) =
      piecesFrom ((piece b bs).1 :: done) (bs.drop (piece b bs).2) := by
  rw [piecesFrom]

theorem piecesFrom_encodeChars (done : List Piece) (cs : List Char) :
    piecesFrom done (encodeChars cs) = done.reverse ++ cs.map .char := by
  induction cs generalizing done with
  | nil => rw [encodeChars, List.flatMap_nil, piecesFrom, List.map_nil, List.append_nil]
  | cons c cs ih =>
    obtain ⟨b, bs, hbytes, hpiece⟩ := piece_encodeChar c (encodeChars cs)
    rw [show encodeChars (c :: cs) = String.utf8EncodeChar c ++ encodeChars cs from rfl, hbytes,
      List.cons_append, piecesFrom_cons, hpiece, List.drop_left, ih]
    simp

theorem mapM_char (cs : List Char) :
    (cs.map Piece.char).mapM (fun
      | .char c => some c
      | .broken _ => none) = some cs := by
  induction cs with
  | nil => rfl
  | cons c cs ih => simp [List.mapM_cons, ih]

/-- The bytes of a text are well formed, and spell the text. -/
theorem text?_encode (s : String) : text? (encode s) = some s := by
  have hpieces : pieces (encode s) = s.toList.map .char := piecesFrom_encodeChars [] s.toList
  have hchars : decode? (encode s) = some s.toList := by
    rw [decode?, hpieces]
    exact mapM_char s.toList
  rw [text?, hchars]
  simp

theorem encode_injective {s t : String} (h : encode s = encode t) : s = t := by
  have hs := text?_encode s
  rw [h, text?_encode] at hs
  exact (Option.some_inj.1 hs).symm

/-- Only the character U+FEFF has the bytes of the byte order mark. -/
theorem eq_of_encodeChars_eq_mark {c : Char} {cs : List Char} {rest more : List UInt8}
    (h : encodeChars (c :: cs) ++ rest = 0xEF :: 0xBB :: 0xBF :: more) : c = '\uFEFF' := by
  obtain ⟨b, bs, hbytes, hpiece⟩ := piece_encodeChar c (encodeChars cs ++ rest)
  rw [show encodeChars (c :: cs) = String.utf8EncodeChar c ++ encodeChars cs from rfl, hbytes,
    List.append_assoc, List.cons_append] at h
  obtain ⟨rfl, hbs⟩ := List.cons.inj h
  rw [hbs, show piece 0xEF (0xBB :: 0xBF :: more) = (.char '\uFEFF', 2) from rfl] at hpiece
  exact (Piece.char.inj (Prod.mk.inj hpiece).1).symm

end Utf8
end TelemetryLog
