import FeedHydration.Text.Utf8
import Mathlib.Tactic.IntervalCases

/-!
# Characters survive their bytes

What `encode` writes is well-formed, and `decode` gives back the characters. A character takes one
to four bytes; the first says how many, and the ranges that the extreme first bytes leave for the
second one are those in which the characters of that length lie.
-/

namespace FeedHydration

namespace Utf8

variable {b n : Nat} {rest : Bytes} {pending : Pending}

theorem toNat_ofNat_byte (h : n < 256) : (UInt8.ofNat n).toNat = n := by
  rw [UInt8.toNat_ofNat']
  exact Nat.mod_eq_of_lt h

theorem decodeFrom_single (h : n < 0x80) :
    decodeFrom none (UInt8.ofNat n :: rest) = some (Char.ofNat n) :: decodeFrom none rest := by
  rw [decodeFrom, toNat_ofNat_byte (by omega), step, start, if_pos h]
  rfl

/-- The first byte of several says what to wait for. -/
theorem decodeFrom_lead (hb : b < 256) (h : start b = ([], some pending)) :
    decodeFrom none (UInt8.ofNat b :: rest) = decodeFrom (some pending) rest := by
  rw [decodeFrom, toNat_ofNat_byte hb, step, h]
  rfl

theorem decodeFrom_inner {left lower upper value : Nat} (hlower : lower ≤ n + 0x80)
    (hupper : n + 0x80 ≤ upper) (hn : n < 64) :
    decodeFrom (some ⟨left + 2, lower, upper, value⟩) (UInt8.ofNat (n + 0x80) :: rest) =
      decodeFrom (some ⟨left + 1, 0x80, 0xBF, value * 64 + n⟩) rest := by
  rw [decodeFrom, toNat_ofNat_byte (by omega), step, if_pos ⟨hlower, hupper⟩, Nat.add_sub_cancel]
  dsimp only
  rw [if_neg (by omega)]
  rfl

theorem decodeFrom_last {lower upper value : Nat} (hlower : lower ≤ n + 0x80)
    (hupper : n + 0x80 ≤ upper) (hn : n < 64) :
    decodeFrom (some ⟨1, lower, upper, value⟩) (UInt8.ofNat (n + 0x80) :: rest) =
      some (Char.ofNat (value * 64 + n)) :: decodeFrom none rest := by
  rw [decodeFrom, toNat_ofNat_byte (by omega), step, if_pos ⟨hlower, hupper⟩, Nat.add_sub_cancel]
  rfl

theorem start_of_two (hlow : 0xC2 ≤ b) (hhigh : b < 0xE0) :
    start b = ([], some ⟨1, 0x80, 0xBF, b - 0xC0⟩) := by
  rw [start, if_neg (by omega), if_neg (by omega), if_pos hhigh]

/-- No overlong form and no surrogate passes. -/
theorem start_of_three (hlow : 0xE0 ≤ b) (hhigh : b < 0xF0) : start b = ([], some
    ⟨2, if b = 0xE0 then 0xA0 else 0x80, if b = 0xED then 0x9F else 0xBF, b - 0xE0⟩) := by
  interval_cases b <;> rfl

/-- No overlong form passes, and nothing beyond the last character. -/
theorem start_of_four (hlow : 0xF0 ≤ b) (hhigh : b < 0xF5) : start b = ([], some
    ⟨3, if b = 0xF0 then 0x90 else 0x80, if b = 0xF4 then 0x8F else 0xBF, b - 0xF0⟩) := by
  interval_cases b <;> rfl

theorem decodeFrom_encodeChar (c : Char) :
    decodeFrom none (String.utf8EncodeChar c ++ rest) = some c :: decodeFrom none rest := by
  have hvalid : c.toNat < 0xD800 ∨ 0xDFFF < c.toNat ∧ c.toNat < 0x110000 := c.valid
  have hback : Char.ofNat c.toNat = c := Char.ofNat_toNat c
  -- From here on a character is its number, so that the digits of its bytes are arithmetic.
  generalize hv : c.toNat = v at hvalid hback
  have hval : c.val.toNat = v := hv
  unfold String.utf8EncodeChar
  dsimp only
  rw [hval]
  split
  · rw [List.singleton_append, decodeFrom_single (by omega), hback]
  · split
    · have hvalue : (v / 64 % 32 + 192 - 0xC0) * 64 + v % 64 = v := by omega
      rw [List.cons_append, List.singleton_append,
        decodeFrom_lead (by omega) (start_of_two (by omega) (by omega)),
        decodeFrom_last (by omega) (by omega) (by omega), hvalue, hback]
    · split
      · have hvalue : ((v / 4096 % 16 + 224 - 0xE0) * 64 + v / 64 % 64) * 64 + v % 64 = v := by
          omega
        rw [List.cons_append, List.cons_append, List.singleton_append,
          decodeFrom_lead (by omega) (start_of_three (by omega) (by omega)),
          decodeFrom_inner (by split <;> omega) (by split <;> omega) (by omega),
          decodeFrom_last (by omega) (by omega) (by omega), hvalue, hback]
      · have hvalue : (((v / 262144 % 8 + 240 - 0xF0) * 64 + v / 4096 % 64) * 64 + v / 64 % 64) *
            64 + v % 64 = v := by omega
        rw [List.cons_append, List.cons_append, List.cons_append, List.singleton_append,
          decodeFrom_lead (by omega) (start_of_four (by omega) (by omega)),
          decodeFrom_inner (by split <;> omega) (by split <;> omega) (by omega),
          decodeFrom_inner (by omega) (by omega) (by omega),
          decodeFrom_last (by omega) (by omega) (by omega), hvalue, hback]

/-- The bytes of a text are read as its characters. -/
theorem decode_encode (chars : List Char) : decode (encode chars) = chars.map some := by
  rw [decode]
  induction chars with
  | nil => rfl
  | cons c chars ih =>
    rw [encode, List.flatMap_cons, decodeFrom_encodeChar, List.map_cons, ← ih]
    rfl

end Utf8

end FeedHydration
