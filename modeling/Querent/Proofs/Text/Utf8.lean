import Querent.Proofs.Text.Bytes
import Querent.Text.Utf8

/-! The bytes of a text are read back as that text, whatever stands for bytes that are no UTF-8. -/

namespace Querent

variable {stray : List Char} {rest : List UInt8} {n : Nat}

/-- A number below 256 is that of its byte. -/
theorem toNat_byte (low : n < 256) : (UInt8.ofNat n).toNat = n :=
  UInt8.toNat_ofNat_of_lt' low

/-- The character that a first byte opens, by the number of the byte. -/
theorem openChar?_ofNat (low : n < 256) :
    openChar? (UInt8.ofNat n) =
      if n < 0xC2 then none
      else if n < 0xE0 then some ⟨n - 0xC0, 0, 0x80, 0xBF⟩
      else if n < 0xF0 then
        some ⟨n - 0xE0, 1, if n = 0xE0 then 0xA0 else 0x80, if n = 0xED then 0x9F else 0xBF⟩
      else if n < 0xF5 then
        some ⟨n - 0xF0, 2, if n = 0xF0 then 0x90 else 0x80, if n = 0xF4 then 0x8F else 0xBF⟩
      else none := by
  -- Bytes are compared by their numbers.
  unfold openChar?
  simp only [UInt8.lt_iff_toNat_lt, beq_iff_eq, ← UInt8.toNat_inj, toNat_byte low]
  rfl

/-- A first byte outside ASCII opens its character. -/
theorem decodeFrom_open (low : n < 256) (high : 0x80 ≤ n) {opened : OpenChar}
    (opens : openChar? (UInt8.ofNat n) = some opened) :
    decodeFrom stray none (UInt8.ofNat n :: rest) = decodeFrom stray (some opened) rest := by
  -- Only a byte below 0x80 is a character of its own.
  have outside : ¬UInt8.ofNat n < 0x80 := by
    rw [UInt8.lt_iff_toNat_lt, toNat_byte low]
    exact Nat.not_lt.mpr high
  rw [decodeFrom, decodeByte, beginChar, if_neg outside, opens]
  rfl

/-- A byte within the bounds of an open character goes on with it, or finishes it. -/
theorem decodeFrom_next {opened : OpenChar} (low : n < 256) (least : opened.least.toNat ≤ n)
    (greatest : n ≤ opened.greatest.toNat) :
    decodeFrom stray (some opened) (UInt8.ofNat n :: rest) =
      match opened.after with
      | 0 => Char.ofNat (opened.code * 64 + (n - 0x80)) :: decodeFrom stray none rest
      | after + 1 =>
        decodeFrom stray (some ⟨opened.code * 64 + (n - 0x80), after, 0x80, 0xBF⟩) rest := by
  -- The byte is neither too low nor too high for the place that it has.
  have within : (opened.least ≤ UInt8.ofNat n && UInt8.ofNat n ≤ opened.greatest) = true := by
    simp only [UInt8.le_iff_toNat_le, toNat_byte low, Bool.and_eq_true, decide_eq_true_eq]
    exact ⟨least, greatest⟩
  rw [decodeFrom, decodeByte, if_pos within, toNat_byte low]
  cases opened.after <;> rfl

/-- The last six bits of a code finish an open character. -/
theorem decodeFrom_last {code : Nat} :
    decodeFrom stray (some ⟨code, 0, 0x80, 0xBF⟩) (UInt8.ofNat (n % 64 + 0x80) :: rest) =
      Char.ofNat (code * 64 + n % 64) :: decodeFrom stray none rest := by
  have six : n % 64 < 64 := Nat.mod_lt n (by decide)
  have least : (0x80 : UInt8).toNat ≤ n % 64 + 0x80 := Nat.le_add_left ..
  have greatest : n % 64 + 0x80 ≤ (0xBF : UInt8).toNat :=
    Nat.add_le_add_right (Nat.le_of_lt_succ six) _
  -- Any six bits are within the bounds, as nothing is open but the last place.
  rw [decodeFrom_next (by omega) least greatest]
  dsimp only
  rw [Nat.add_sub_cancel]

/-- Six bits of a code that are not the last ones go on with an open character. -/
theorem decodeFrom_more {code after : Nat} {least greatest : UInt8}
    (above : least.toNat ≤ n % 64 + 0x80) (below : n % 64 + 0x80 ≤ greatest.toNat) :
    decodeFrom stray (some ⟨code, after + 1, least, greatest⟩)
        (UInt8.ofNat (n % 64 + 0x80) :: rest) =
      decodeFrom stray (some ⟨code * 64 + n % 64, after, 0x80, 0xBF⟩) rest := by
  have six : n % 64 < 64 := Nat.mod_lt n (by decide)
  rw [decodeFrom_next (by omega) above below]
  dsimp only
  rw [Nat.add_sub_cancel]

/-- The bytes of a character are read as that character. -/
theorem decodeFrom_encodeChar (c : Char) :
    decodeFrom stray none (String.utf8EncodeChar c ++ rest) = c :: decodeFrom stray none rest := by
  have valid : c.toNat < 0xD800 ∨ 0xDFFF < c.toNat ∧ c.toNat < 0x110000 := c.valid
  have same : Char.ofNat c.toNat = c := Char.ofNat_toNat c
  have code : c.val.toNat = c.toNat := rfl
  -- The cases are those of the encoder, and in each the code is put together again from its bits.
  unfold String.utf8EncodeChar
  rw [code]
  dsimp only
  generalize c.toNat = n at valid same
  -- A character has one to four bytes, of which the first one tells how many follow.
  split
  · have low : n < 256 := by omega
    -- One byte, which stands for itself.
    have ascii : UInt8.ofNat n < 0x80 := by
      rw [UInt8.lt_iff_toNat_lt, toNat_byte low]
      exact Nat.lt_succ_of_le ‹_›
    rw [List.singleton_append, decodeFrom, decodeByte, beginChar, if_pos ascii,
      toNat_byte low, same]
    rfl
  · split
    · have first : n / 64 % 32 + 0xC0 < 256 := by omega
      have whole : (n / 64 % 32 + 0xC0 - 0xC0) * 64 + n % 64 = n := by omega
      have opens := openChar?_ofNat first
      rw [if_neg (by omega), if_pos (by omega)] at opens
      rw [List.cons_append, List.singleton_append, decodeFrom_open first (by omega) opens,
        decodeFrom_last, whole, same]
    · split
      · have first : n / 4096 % 16 + 0xE0 < 256 := by omega
        have whole : ((n / 4096 % 16 + 0xE0 - 0xE0) * 64 + n / 64 % 64) * 64 + n % 64 = n := by
          omega
        have opens := openChar?_ofNat first
        rw [if_neg (by omega), if_neg (by omega), if_pos (by omega)] at opens
        rw [List.cons_append, List.cons_append, List.singleton_append,
          decodeFrom_open first (by omega) opens]
        -- No code is that of a surrogate, and none could have had fewer bytes.
        rw [decodeFrom_more, decodeFrom_last, whole, same]
        · split
          · simp
            omega
          · simp
        · split <;> (simp; omega)
      · have first : n / 262144 % 8 + 0xF0 < 256 := by omega
        have whole : (((n / 262144 % 8 + 0xF0 - 0xF0) * 64 + n / 4096 % 64) * 64 +
            n / 64 % 64) * 64 + n % 64 = n := by
          omega
        have opens := openChar?_ofNat first
        rw [if_neg (by omega), if_neg (by omega), if_neg (by omega), if_pos (by omega)] at opens
        rw [List.cons_append, List.cons_append, List.cons_append, List.singleton_append,
          decodeFrom_open first (by omega) opens]
        rw [decodeFrom_more, decodeFrom_more (by simp) (by simp; omega), decodeFrom_last, whole,
          same]
        · split
          · simp
            omega
          · simp
        · split <;> (simp; omega)

/-- The bytes of characters are read as those characters. -/
theorem decodeFrom_charBytes (chars : List Char) :
    decodeFrom stray none (charBytes chars) = chars := by
  -- No character is open between the bytes of two characters.
  induction chars with
  | nil => rfl
  | cons c chars ih => rw [charBytes_cons, decodeFrom_encodeChar, ih]

/-- The bytes of a text are read as that text. -/
theorem decodeBytes_textBytes (stray : List Char) (text : String) :
    decodeBytes stray (textBytes text) = text := by
  rw [decodeBytes, textBytes_eq, decodeFrom_charBytes, String.ofList_toList]

end Querent
