/-
# Kickstart.Proofs.Text.Utf8 -- what is written as UTF-8 is read back

The reader takes one byte at a time, so the law of one character is stated with
whatever follows it (`run_encodeChar`): the lead byte says how many bytes are wanted
and in which range the next one lies, and every tail byte adds six bits.  The narrow
ranges behind the lead bytes E0, ED, F0 and F4 are met because a written character is
no shorter form of another, no surrogate and no number past the last scalar value.
-/
import Kickstart.Text.Utf8

namespace Kickstart

set_option autoImplicit false

namespace Text

theorem toNat_byte {k : Nat} (small : k < 256) : k.toUInt8.toNat = k := by
  simp [Nat.mod_eq_of_lt small]

namespace Decoder

variable {low high : UInt8} {wanted value k : Nat} (rest : Bytes)

/-! ## Tail bytes -/

theorem fits_tail (above : low.toNat ≤ 0x80 + k % 64) (below : 0x80 + k % 64 ≤ high.toNat) :
    low ≤ (0x80 + k % 64).toUInt8 ∧ (0x80 + k % 64).toUInt8 ≤ high := by
  have byte : (0x80 + k % 64).toUInt8.toNat = 0x80 + k % 64 := toNat_byte (by omega)
  rw [UInt8.le_iff_toNat_le, UInt8.le_iff_toNat_le, byte]
  exact ⟨above, below⟩

/-- A tail byte goes on with a character. -/
theorem run_more (above : low.toNat ≤ 0x80 + k % 64) (below : 0x80 + k % 64 ≤ high.toNat) :
    run (.inside (wanted + 2) low high value) ((0x80 + k % 64).toUInt8 :: rest) =
      run (.inside (wanted + 1) 0x80 0xBF (value * 64 + k % 64)) rest := by
  have byte : (0x80 + k % 64).toUInt8.toNat = 0x80 + k % 64 := toNat_byte (by omega)
  have fits := fits_tail above below
  generalize (0x80 + k % 64).toUInt8 = b at byte fits
  simp [run, feed, fits, byte]

/-- The last tail byte ends a character. -/
theorem run_last (above : low.toNat ≤ 0x80 + k % 64) (below : 0x80 + k % 64 ≤ high.toNat) :
    run (.inside 1 low high value) ((0x80 + k % 64).toUInt8 :: rest) =
      some (Char.ofNat (value * 64 + k % 64)) :: run .idle rest := by
  have byte : (0x80 + k % 64).toUInt8.toNat = 0x80 + k % 64 := toNat_byte (by omega)
  have fits := fits_tail above below
  generalize (0x80 + k % 64).toUInt8 = b at byte fits
  simp [run, feed, fits, byte]

/-! ## Lead bytes -/

theorem run_one (small : k < 0x80) :
    run .idle (k.toUInt8 :: rest) = some (Char.ofNat k) :: run .idle rest := by
  have byte : k.toUInt8.toNat = k := toNat_byte (by omega)
  generalize k.toUInt8 = b at byte
  have ascii : b < 0x80 := UInt8.lt_iff_toNat_lt.mpr (byte ▸ small)
  simp [run, feed, start, ascii, byte]

theorem run_two (above : 2 ≤ k) (below : k < 32) :
    run .idle ((0xC0 + k).toUInt8 :: rest) = run (.inside 1 0x80 0xBF k) rest := by
  have byte : (0xC0 + k).toUInt8.toNat = 0xC0 + k := toNat_byte (by omega)
  generalize (0xC0 + k).toUInt8 = b at byte
  simp only [run, feed, start, UInt8.lt_iff_toNat_lt, byte]
  simp [show ¬ 0xC0 + k < 0x80 by omega, show ¬ 0xC0 + k < 0xC2 by omega,
    show 0xC0 + k < 0xE0 by omega]

theorem run_three (below : k < 16) :
    run .idle ((0xE0 + k).toUInt8 :: rest) =
      run (.inside 2 (if k = 0 then 0xA0 else 0x80) (if k = 0xD then 0x9F else 0xBF) k) rest := by
  have byte : (0xE0 + k).toUInt8.toNat = 0xE0 + k := toNat_byte (by omega)
  generalize (0xE0 + k).toUInt8 = b at byte
  simp only [run, feed, start, UInt8.lt_iff_toNat_lt, ← UInt8.toNat_inj, byte]
  simp [show ¬ 0xE0 + k < 0x80 by omega, show ¬ 0xE0 + k < 0xC2 by omega,
    show ¬ 0xE0 + k < 0xE0 by omega, show 0xE0 + k < 0xF0 by omega,
    show 0xE0 + k = 0xED ↔ k = 0xD by omega]

theorem run_four (below : k < 5) :
    run .idle ((0xF0 + k).toUInt8 :: rest) =
      run (.inside 3 (if k = 0 then 0x90 else 0x80) (if k = 4 then 0x8F else 0xBF) k) rest := by
  have byte : (0xF0 + k).toUInt8.toNat = 0xF0 + k := toNat_byte (by omega)
  generalize (0xF0 + k).toUInt8 = b at byte
  simp only [run, feed, start, UInt8.lt_iff_toNat_lt, ← UInt8.toNat_inj, byte]
  simp [show ¬ 0xF0 + k < 0x80 by omega, show ¬ 0xF0 + k < 0xC2 by omega,
    show ¬ 0xF0 + k < 0xE0 by omega, show ¬ 0xF0 + k < 0xF0 by omega, show 0xF0 + k < 0xF5 by omega,
    show 0xF0 + k = 0xF4 ↔ k = 4 by omega]

end Decoder

/-! ## Characters and texts -/

/-- A character that is written is read, whatever follows it. -/
theorem run_encodeChar (c : Char) (rest : Bytes) :
    Decoder.run .idle (encodeChar c ++ rest) = some c :: Decoder.run .idle rest := by
  have scalar : c.toNat < 0xD800 ∨ 0xDFFF < c.toNat ∧ c.toNat < 0x110000 := c.valid
  have whole : Char.ofNat c.toNat = c := Char.ofNat_toNat c
  simp only [encodeChar]
  generalize c.toNat = n at scalar whole
  split
  · rw [List.singleton_append, Decoder.run_one rest ‹_›, whole]
  split
  · rw [List.cons_append, Decoder.run_two _ (by omega) (by omega), List.singleton_append,
      Decoder.run_last _ (by simp) (by simp; omega)]
    rw [show n / 64 * 64 + n / 1 % 64 = n by omega, whole]
  split
  · rw [List.cons_append, Decoder.run_three _ (by omega), List.cons_append,
      Decoder.run_more _ (by split <;> simp; omega) (by split <;> simp <;> omega),
      List.singleton_append, Decoder.run_last _ (by simp) (by simp; omega)]
    rw [show (n / 4096 * 64 + n / 64 % 64) * 64 + n / 1 % 64 = n by omega, whole]
  · rw [List.cons_append, Decoder.run_four _ (by omega), List.cons_append,
      Decoder.run_more _ (by split <;> simp; omega) (by split <;> simp <;> omega),
      List.cons_append, Decoder.run_more _ (by simp) (by simp; omega), List.singleton_append,
      Decoder.run_last _ (by simp) (by simp; omega)]
    rw [show ((n / 262144 * 64 + n / 4096 % 64) * 64 + n / 64 % 64) * 64 + n / 1 % 64 = n by omega,
      whole]

/-- What is written is read back. -/
theorem decode?_encode (t : Text) : decode? t.encode = some t := by
  unfold decode? encode
  induction t with
  | nil => rfl
  | cons c rest ih => rw [List.flatMap_cons, run_encodeChar, List.foldr_cons, ih]

end Text

end Kickstart
