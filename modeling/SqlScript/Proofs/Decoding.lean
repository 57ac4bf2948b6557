import Mathlib.Data.List.Basic
import SqlScript.Text.Utf8

/-!
# Decoding what was encoded

Decoding a text that was encoded gives it back (`Utf8.decode_encode`). The decoder walks over the
bytes of one character after the other: its first byte opens it, each further byte adds six bits,
and the last one of them completes it. The bounds for the byte behind the first exclude the
characters that fewer bytes encode, the surrogates and what lies above the last code point, and none
of these is a character that was encoded with that many bytes.
-/

namespace SqlScript.Text.Utf8

theorem toNat_byte {n : Nat} (h : n < 0x100) : (byte n).toNat = n := by
  rw [byte, UInt8.toNat_ofNat']
  exact Nat.mod_eq_of_lt h

variable {start : Nat} {read : Text} {bs : Bytes} {n k : Nat}

/-! ### First bytes -/

theorem decodeFrom_one (h : n < 0x80) :
    decodeFrom start none read (byte n :: bs) =
      decodeFrom (start + 1) none (Char.ofNat n :: read) bs := by
  have hbegin : begin? (byte n) = some (.inl (Char.ofNat n)) := by
    rw [begin?, toNat_byte (by omega), if_pos h]
  simp only [decodeFrom, hbegin]

theorem decodeFrom_two (hlow : 2 ≤ k) (hhigh : k < 0x20) :
    decodeFrom start none read (byte (0xC0 + k) :: bs) =
      decodeFrom (start + 1)
        (some { first := byte (0xC0 + k), taken := 1, value := k, owed := 1 }) read bs := by
  have hbegin : begin? (byte (0xC0 + k)) =
      some (.inr { first := byte (0xC0 + k), taken := 1, value := k, owed := 1 }) := by
    simp only [begin?, toNat_byte (show 0xC0 + k < 0x100 by omega)]
    rw [if_neg (by omega), if_neg (by omega), if_pos (by omega), Nat.add_sub_cancel_left]
  simp only [decodeFrom, hbegin]

theorem decodeFrom_three (hhigh : k < 0x10) :
    decodeFrom start none read (byte (0xE0 + k) :: bs) =
      decodeFrom (start + 1)
        (some {
          first := byte (0xE0 + k), taken := 1, value := k, owed := 2
          low := if k = 0 then 0xA0 else 0x80
          high := if k = 0xD then 0x9F else 0xBF }) read bs := by
  have hfirst : 0xE0 + k = 0xE0 ↔ k = 0 := by omega
  have hsurrogates : 0xE0 + k = 0xED ↔ k = 0xD := by omega
  have hbegin : begin? (byte (0xE0 + k)) =
      some (.inr {
        first := byte (0xE0 + k), taken := 1, value := k, owed := 2
        low := if k = 0 then 0xA0 else 0x80
        high := if k = 0xD then 0x9F else 0xBF }) := by
    simp only [begin?, toNat_byte (show 0xE0 + k < 0x100 by omega), hfirst, hsurrogates]
    rw [if_neg (by omega), if_neg (by omega), if_neg (by omega), if_pos (by omega),
      Nat.add_sub_cancel_left]
  simp only [decodeFrom, hbegin]

theorem decodeFrom_four (hhigh : k < 5) :
    decodeFrom start none read (byte (0xF0 + k) :: bs) =
      decodeFrom (start + 1)
        (some {
          first := byte (0xF0 + k), taken := 1, value := k, owed := 3
          low := if k = 0 then 0x90 else 0x80
          high := if k = 4 then 0x8F else 0xBF }) read bs := by
  have hfirst : 0xF0 + k = 0xF0 ↔ k = 0 := by omega
  have hlast : 0xF0 + k = 0xF4 ↔ k = 4 := by omega
  have hbegin : begin? (byte (0xF0 + k)) =
      some (.inr {
        first := byte (0xF0 + k), taken := 1, value := k, owed := 3
        low := if k = 0 then 0x90 else 0x80
        high := if k = 4 then 0x8F else 0xBF }) := by
    simp only [begin?, toNat_byte (show 0xF0 + k < 0x100 by omega), hfirst, hlast]
    rw [if_neg (by omega), if_neg (by omega), if_neg (by omega), if_neg (by omega),
      if_pos (by omega), Nat.add_sub_cancel_left]
  simp only [decodeFrom, hbegin]

/-! ### Further bytes -/

variable {first : UInt8} {taken value : Nat}

/-- A further byte adds six bits. -/
theorem decodeFrom_more {owed low high : Nat} (hk : k < 0x40) (hlow : low ≤ 0x80 + k)
    (hhigh : 0x80 + k ≤ high) :
    decodeFrom start (some { first, taken, value, owed := owed + 2, low, high }) read
        (byte (0x80 + k) :: bs) =
      decodeFrom (start + 1)
        (some { first, taken := taken + 1, value := value * 0x40 + k, owed := owed + 1 })
        read bs := by
  have hcontinue :
      Open.continue? { first, taken, value, owed := owed + 2, low, high } (byte (0x80 + k)) =
        some (.inr {
          first, taken := taken + 1, value := value * 0x40 + k, owed := owed + 1 }) := by
    simp only [Open.continue?, toNat_byte (show 0x80 + k < 0x100 by omega)]
    rw [if_pos ⟨hlow, hhigh⟩, if_neg (by omega), Nat.add_sub_cancel_left]
    rfl
  simp only [decodeFrom, hcontinue]

/-- The last byte completes the character. -/
theorem decodeFrom_last (hk : k < 0x40) :
    decodeFrom start (some { first, taken, value, owed := 1 }) read (byte (0x80 + k) :: bs) =
      decodeFrom (start + 1) none (Char.ofNat (value * 0x40 + k) :: read) bs := by
  have hcontinue : Open.continue? { first, taken, value, owed := 1 } (byte (0x80 + k)) =
      some (.inl (Char.ofNat (value * 0x40 + k))) := by
    simp only [Open.continue?, toNat_byte (show 0x80 + k < 0x100 by omega)]
    rw [if_pos ⟨by omega, by omega⟩, if_pos (Nat.le_refl 1), Nat.add_sub_cancel_left]
  simp only [decodeFrom, hcontinue]

/-! ### Characters -/

/-- **The bytes of a character are decoded to it.** The second one is within its bounds, since the
character needs as many bytes as it has and is no surrogate. -/
theorem decodeFrom_encodeChar (c : Char) (start : Nat) (read : Text) (bs : Bytes) :
    decodeFrom start none read (encodeChar c ++ bs) =
      decodeFrom (start + (encodeChar c).length) none (c :: read) bs := by
  have hvalid : c.toNat < 0xD800 ∨ (0xDFFF < c.toNat ∧ c.toNat < 0x110000) := c.valid
  have hc : Char.ofNat c.toNat = c := Char.ofNat_toNat c
  rw [encodeChar]
  generalize c.toNat = n at hvalid hc
  subst hc
  have hbits : ∀ m, m % 0x40 < 0x40 := fun m => Nat.mod_lt m (by decide)
  split_ifs with h1 h2 h3
  · exact decodeFrom_one h1
  · -- two bytes, and the first is above those that one byte would do for
    have hvalue : n / 0x40 * 0x40 + n % 0x40 = n := by omega
    simp only [List.cons_append, List.nil_append]
    rw [decodeFrom_two (by omega) (by omega), decodeFrom_last (hbits n), hvalue]
    rfl
  · -- three bytes, and the second has bounds of its own behind the least first one and at the
    -- surrogates
    have hvalue : (n / 0x1000 * 0x40 + n / 0x40 % 0x40) * 0x40 + n % 0x40 = n := by omega
    simp only [List.cons_append, List.nil_append]
    rw [decodeFrom_three (by omega),
      decodeFrom_more (hbits _) (by split_ifs <;> omega) (by split_ifs <;> omega),
      decodeFrom_last (hbits n), hvalue]
    rfl
  · -- four bytes, and the second has bounds of its own behind the least first one and at the end
    have hvalue : ((n / 0x40000 * 0x40 + n / 0x1000 % 0x40) * 0x40 + n / 0x40 % 0x40) * 0x40 +
        n % 0x40 = n := by omega
    simp only [List.cons_append, List.nil_append]
    rw [decodeFrom_four (by omega),
      decodeFrom_more (hbits _) (by split_ifs <;> omega) (by split_ifs <;> omega),
      decodeFrom_more (hbits _) (by omega) (by omega), decodeFrom_last (hbits n), hvalue]
    rfl

theorem decodeFrom_encode (t : Text) (start : Nat) (read : Text) :
    decodeFrom start none read (encode t) = .ok (read.reverse ++ t) := by
  induction t generalizing start read with
  | nil => simp [encode, decodeFrom]
  | cons c t ih =>
    rw [encode, List.flatMap_cons, decodeFrom_encodeChar, ← encode, ih]
    simp

/-- **Decoding gives back what was encoded.** -/
@[simp] theorem decode_encode (t : Text) : decode (encode t) = .ok t :=
  decodeFrom_encode t 0 []

end SqlScript.Text.Utf8
