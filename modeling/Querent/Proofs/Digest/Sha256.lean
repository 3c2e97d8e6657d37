import Querent.Digest.Sha256
import Querent.Proofs.Text.Bytes

/-! The digest of a text is written in sixty-four digits, each of them one byte. -/

namespace Querent

/-- There are as many digits as the width says. -/
theorem length_hexDigits (width n : Nat) : (hexDigits width n).length = width := by
  induction width generalizing n with
  | zero => rfl
  | succ width ih => rw [hexDigits, List.length_append, ih, List.length_singleton]

/-- A digit to base sixteen is one byte, and no zero character. -/
theorem hexDigit_visible (n : Nat) : (hexDigit n).utf8Size = 1 ∧ hexDigit n ≠ '\x00' := by
  -- There are sixteen digits to look at.
  have each : ∀ k < 16, ((Nat.toDigits 16 k).headD '0').utf8Size = 1 ∧
      (Nat.toDigits 16 k).headD '0' ≠ '\x00' := by decide
  exact each (n % 16) (Nat.mod_lt n (by decide))

/-- All digits to base sixteen are one byte each, and none is a zero character. -/
theorem hexDigits_visible {width n : Nat} {c : Char} (mem : c ∈ hexDigits width n) :
    c.utf8Size = 1 ∧ c ≠ '\x00' := by
  induction width generalizing n with
  | zero => cases mem
  | succ width ih =>
    rw [hexDigits, List.mem_append, List.mem_singleton] at mem
    rcases mem with earlier | rfl
    · exact ih earlier
    · exact hexDigit_visible n

namespace Sha256

/-- The digest of a text is written in sixty-four digits. -/
theorem length_hex (text : String) : (hex text).toList.length = 64 := by
  rw [hex, String.toList_ofList]
  -- Eight words are written with eight digits each.
  have eight : ∀ words : List UInt32,
      (words.flatMap fun word => hexDigits 8 word.toNat).length = 8 * words.length := by
    intro words
    induction words with
    | nil => rfl
    | cons word words ih =>
      rw [List.flatMap_cons, List.length_append, length_hexDigits, ih, List.length_cons]
      omega
  rw [eight]
  rfl

/-- Each digit of a digest is one byte, and no zero character. -/
theorem hex_visible {text : String} {c : Char} (mem : c ∈ (hex text).toList) :
    c.utf8Size = 1 ∧ c ≠ '\x00' := by
  rw [hex, String.toList_ofList] at mem
  obtain ⟨word, -, digit⟩ := List.mem_flatMap.mp mem
  exact hexDigits_visible digit

/-- The digest of a text takes sixty-four bytes. -/
theorem utf8ByteSize_hex (text : String) : (hex text).utf8ByteSize = 64 := by
  -- Characters of one byte take as many bytes as there are.
  have single : ∀ c ∈ (hex text).toList, c.utf8Size = 1 := fun c mem => (hex_visible mem).1
  have size := length_charBytes_of_single single
  rwa [length_charBytes, String.ofList_toList, length_hex] at size

/-- Digests with something behind them are told apart by the digests and by what is behind. -/
theorem hex_append_inj {text other suffix suffix' : String}
    (same : hex text ++ suffix = hex other ++ suffix') :
    hex text = hex other ∧ suffix = suffix' := by
  have chars := congrArg String.toList same
  rw [String.toList_append, String.toList_append] at chars
  -- All digests are of one length.
  obtain ⟨digests, suffixes⟩ :=
    List.append_inj chars ((length_hex text).trans (length_hex other).symm)
  exact ⟨String.toList_inj.mp digests, String.toList_inj.mp suffixes⟩

end Sha256

end Querent
