import Mathlib.Data.List.TakeWhile
import Mathlib.Tactic.SplitIfs
import Querent.Text.Bytes

/-! A byte below `0x80` is a character by itself, so a text may be cut on both sides of it. -/

namespace Querent

/-- No characters have no bytes. -/
@[simp]
theorem charBytes_nil : charBytes [] = [] :=
  rfl

/-- The bytes of the first character come first. -/
@[simp]
theorem charBytes_cons (c : Char) (chars : List Char) :
    charBytes (c :: chars) = String.utf8EncodeChar c ++ charBytes chars :=
  List.flatMap_cons

/-- The bytes of two texts stand behind one another. -/
@[simp]
theorem charBytes_append (front back : List Char) :
    charBytes (front ++ back) = charBytes front ++ charBytes back :=
  List.flatMap_append

/-- A text has the bytes of its characters. -/
theorem textBytes_eq (text : String) : textBytes text = charBytes text.toList := by
  -- A text is the bytes of its characters, put into an array.
  have encoded : text.toUTF8 = (charBytes text.toList).toByteArray :=
    String.utf8Encode_toList.symm
  rw [textBytes, encoded, List.toList_data_toByteArray]

/-- The size of a text is the number of its bytes. -/
theorem length_charBytes (chars : List Char) :
    (charBytes chars).length = (String.ofList chars).utf8ByteSize := by
  rw [← String.size_toByteArray, String.toByteArray_ofList]
  exact List.size_toByteArray.symm

/-- A text has as many bytes as its size tells. -/
theorem length_textBytes (text : String) : (textBytes text).length = text.utf8ByteSize := by
  rw [textBytes_eq, length_charBytes, String.ofList_toList]

/-- Characters have as many bytes as they are, or more. -/
theorem length_le_length_charBytes (chars : List Char) :
    chars.length ≤ (charBytes chars).length := by
  induction chars with
  | nil => exact Nat.le_refl 0
  | cons c chars ih =>
    have some := c.utf8Size_pos
    rw [charBytes_cons, List.length_append, String.length_utf8EncodeChar, List.length_cons]
    omega

/-- Bytes of characters are valid, and their text is that of the characters. -/
theorem fromUTF8?_charBytes (chars : List Char) :
    String.fromUTF8? (charBytes chars).toByteArray = some (String.ofList chars) := by
  have valid : (charBytes chars).toByteArray.IsValidUTF8 := ⟨chars, rfl⟩
  rw [String.fromUTF8?, dif_pos valid]
  exact congrArg some (String.toByteArray_inj.mp String.toByteArray_ofList.symm)

/-- A text may be cut between two of its characters. -/
theorem isBoundary_of_split {text : String} {front back : List Char}
    (split : text.toList = front ++ back) : IsBoundary text (charBytes front).length := by
  -- The bytes in front are those of the first characters.
  refine String.Pos.Raw.isValid_iff_exists_take_toList.mpr ⟨front.length, ?_⟩
  rw [split, List.take_left, length_charBytes]

/-- A character has one byte exactly where its code is below `0x80`. -/
theorem utf8Size_eq_one_iff_lt {c : Char} : c.utf8Size = 1 ↔ c.toNat < 0x80 := by
  rw [Char.utf8Size_eq_one_iff, UInt32.le_iff_toNat_le]
  exact Nat.lt_succ_iff.symm

/-- The byte of a character that has only one is the code of the character. -/
theorem toNat_toUInt8 {c : Char} (single : c.utf8Size = 1) : c.toUInt8.toNat = c.toNat := by
  have low := utf8Size_eq_one_iff_lt.mp single
  exact Nat.mod_eq_of_lt (Nat.lt_trans low (by decide))

/-- A character of one byte is told by the byte. -/
theorem toUInt8_inj {c d : Char} (single : c.utf8Size = 1) (single' : d.utf8Size = 1) :
    c.toUInt8 = d.toUInt8 ↔ c = d := by
  rw [← UInt8.toNat_inj, toNat_toUInt8 single, toNat_toUInt8 single', Char.toNat_inj]

/-- The bytes behind a character of one byte are those of the other characters. -/
theorem charBytes_of_single {c : Char} (single : c.utf8Size = 1) (chars : List Char) :
    charBytes (c :: chars) = c.toUInt8 :: charBytes chars := by
  rw [charBytes_cons, String.utf8EncodeChar_eq_singleton single]
  rfl

/-- Characters of one byte each have as many bytes as there are. -/
theorem length_charBytes_of_single {chars : List Char} (single : ∀ c ∈ chars, c.utf8Size = 1) :
    (charBytes chars).length = chars.length := by
  induction chars with
  | nil => rfl
  | cons c chars ih =>
    obtain ⟨first, others⟩ := List.forall_mem_cons.mp single
    rw [charBytes_of_single first, List.length_cons, ih others, List.length_cons]

/-- No byte of a character that has several is below `0x80`. -/
theorem le_of_mem_utf8EncodeChar {c : Char} (several : c.utf8Size ≠ 1) {byte : UInt8}
    (mem : byte ∈ String.utf8EncodeChar c) : 0x80 ≤ byte.toNat := by
  have large : ¬c.val.toNat ≤ 0x7f := fun small =>
    several (utf8Size_eq_one_iff_lt.mpr (Nat.lt_succ_of_le small))
  -- Each byte is some bits of the code, with the highest bit and others of its place before them.
  simp only [String.utf8EncodeChar, if_neg large] at mem
  split_ifs at mem
  all_goals
    simp only [List.mem_cons, List.not_mem_nil, or_false] at mem
    rcases mem with rfl | rfl | rfl | rfl
    all_goals
      rw [UInt8.toNat_ofNat']
      omega

/-- A byte below `0x80` is a character, between those before it and those behind it. -/
theorem exists_split_of_low {chars : List Char} {index : Nat} {byte : UInt8}
    (found : (charBytes chars)[index]? = some byte) (low : byte.toNat < 0x80) :
    ∃ front c back, chars = front ++ c :: back ∧ c.utf8Size = 1 ∧ c.toUInt8 = byte ∧
      (charBytes front).length = index := by
  induction chars generalizing index with
  | nil => simp at found
  | cons c chars ih =>
    rw [charBytes_cons] at found
    by_cases inside : index < (String.utf8EncodeChar c).length
    · -- The byte belongs to the first character, which has no other one.
      rw [List.getElem?_append_left inside] at found
      have single : c.utf8Size = 1 := by
        by_contra several
        have high := le_of_mem_utf8EncodeChar several (List.mem_of_getElem? found)
        omega
      rw [String.utf8EncodeChar_eq_singleton single] at found inside
      obtain rfl : index = 0 := by simpa using inside
      refine ⟨[], c, chars, rfl, single, ?_, rfl⟩
      exact Option.some.inj found
    · -- The byte belongs to one of the other characters.
      rw [List.getElem?_append_right (by omega)] at found
      obtain ⟨front, d, back, rfl, single, same, size⟩ := ih found
      refine ⟨c :: front, d, back, rfl, single, same, ?_⟩
      rw [charBytes_cons, List.length_append, size]
      omega

/-- The first byte of a character that has several is no character by itself. -/
theorem exists_first_byte {c : Char} (several : c.utf8Size ≠ 1) :
    ∃ byte more, String.utf8EncodeChar c = byte :: more ∧
      ∀ a : Char, a.utf8Size = 1 → a.toUInt8 ≠ byte := by
  obtain ⟨byte, more, bytes⟩ := List.exists_cons_of_ne_nil (String.utf8EncodeChar_ne_nil (c := c))
  refine ⟨byte, more, bytes, fun a single same => ?_⟩
  -- One of them is not below `0x80`, and the other is.
  have first : byte ∈ String.utf8EncodeChar c := bytes ▸ List.mem_cons_self
  have high := le_of_mem_utf8EncodeChar several first
  rw [← same, toNat_toUInt8 single] at high
  exact Nat.not_lt.mpr high (utf8Size_eq_one_iff_lt.mp single)

/-- Characters of one byte each stand in front of a text exactly where their bytes do. -/
theorem charBytes_prefix_iff {front chars : List Char} (single : ∀ c ∈ front, c.utf8Size = 1) :
    charBytes front <+: charBytes chars ↔ front <+: chars := by
  -- The characters are compared one after another, with their only bytes.
  induction front generalizing chars with
  | nil => simp
  | cons c front ih =>
    obtain ⟨first, others⟩ := List.forall_mem_cons.mp single
    rw [charBytes_of_single first]
    cases chars with
    | nil => simp
    | cons d chars =>
      by_cases single' : d.utf8Size = 1
      · rw [charBytes_of_single single', List.cons_prefix_cons, List.cons_prefix_cons,
          toUInt8_inj first single', ih others]
      · -- A character of several bytes is another one, and so is its first byte.
        obtain ⟨byte, more, bytes, differs⟩ := exists_first_byte single'
        have other : c ≠ d := fun same => single' (same ▸ first)
        rw [charBytes_cons, bytes, List.cons_append, List.cons_prefix_cons, List.cons_prefix_cons]
        simp [other, differs c first]

/-- A list stands in front of another with one more element behind it. -/
theorem concat_prefix_iff {α : Type} {front whole : List α} {a : α} :
    front ++ [a] <+: whole ↔ whole.take front.length = front ∧ whole[front.length]? = some a := by
  constructor
  · rintro ⟨more, rfl⟩
    simp
  · rintro ⟨taken, next⟩
    obtain ⟨inside, rfl⟩ := List.getElem?_eq_some_iff.mp next
    have whole' := List.take_append_drop front.length whole
    rw [taken, List.drop_eq_getElem_cons inside] at whole'
    exact ⟨whole.drop (front.length + 1), by simpa using whole'⟩

/-- The byte behind characters of one byte each is that of a character that has no other one
exactly where the character stands there. -/
theorem getElem?_charBytes {front chars : List Char} (stands : front <+: chars)
    (single : ∀ c ∈ front, c.utf8Size = 1) {a : Char} (single' : a.utf8Size = 1) :
    (charBytes chars)[front.length]? = some a.toUInt8 ↔ chars[front.length]? = some a := by
  -- With the character behind it, the front stands ahead in both lists or in none.
  have more : ∀ c ∈ front ++ [a], c.utf8Size = 1 :=
    List.forall_mem_append.mpr ⟨single, List.forall_mem_singleton.mpr single'⟩
  have bytes := (charBytes_prefix_iff single).mpr stands
  have whole : charBytes (front ++ [a]) <+: charBytes chars ↔ _ := charBytes_prefix_iff more
  rw [charBytes_append, charBytes_of_single single', charBytes_nil, concat_prefix_iff,
    concat_prefix_iff, ← List.prefix_iff_eq_take.mp bytes, ← List.prefix_iff_eq_take.mp stands,
    length_charBytes_of_single single] at whole
  simpa using whole

/-- A character of one byte is read off the byte. -/
theorem ofUInt8_toUInt8 {c : Char} (single : c.utf8Size = 1) : Char.ofUInt8 c.toUInt8 = c := by
  rw [← Char.toNat_inj, ← toNat_toUInt8 single]
  rfl

/-- A byte that is read as a character of one byte is the byte of it. -/
theorem toUInt8_ofUInt8 {byte : UInt8} (single : (Char.ofUInt8 byte).utf8Size = 1) :
    (Char.ofUInt8 byte).toUInt8 = byte := by
  rw [← UInt8.toNat_inj, toNat_toUInt8 single]
  rfl

/-- Bytes of a kind below `0x80` are taken as the characters of the kind are. -/
theorem takeWhile_charBytes {kind : Char → Bool} (single : ∀ c, kind c = true → c.utf8Size = 1)
    (chars : List Char) :
    (charBytes chars).takeWhile (fun byte => kind (Char.ofUInt8 byte)) =
      charBytes (chars.takeWhile kind) := by
  induction chars with
  | nil => rfl
  | cons c chars ih =>
    by_cases single' : c.utf8Size = 1
    · -- The byte is of the kind exactly where its character is.
      rw [charBytes_of_single single', List.takeWhile_cons, List.takeWhile_cons,
        ofUInt8_toUInt8 single', ih]
      split
      · rw [charBytes_of_single single']
      · rfl
    · -- Neither the character nor its first byte is of the kind.
      obtain ⟨byte, more, bytes, differs⟩ := exists_first_byte single'
      have outside : ¬kind c = true := fun inside => single' (single c inside)
      have outside' : ¬kind (Char.ofUInt8 byte) = true := fun inside =>
        differs _ (single _ inside) (toUInt8_ofUInt8 (single _ inside))
      rw [charBytes_cons, bytes, List.cons_append, List.takeWhile_cons, if_neg outside',
        List.takeWhile_cons, if_neg outside, charBytes_nil]

/-- A piece inside of some bytes is as long as it is from its start to its end. -/
theorem length_bytesBetween {bytes : List UInt8} {start stop : Nat} (inside : stop ≤ bytes.length) :
    (bytesBetween bytes start stop).length = stop - start := by
  rw [bytesBetween, List.length_take, List.length_drop]
  omega

/-- Two pieces of which one ends where the other starts are one piece. -/
theorem bytesBetween_append (bytes : List UInt8) {start middle stop : Nat}
    (before : start ≤ middle) (after : middle ≤ stop) :
    bytesBetween bytes start middle ++ bytesBetween bytes middle stop =
      bytesBetween bytes start stop := by
  -- Taking as many bytes as both pieces have is taking those of one and then of the other.
  have whole : stop - start = (middle - start) + (stop - middle) := by omega
  have further : start + (middle - start) = middle := by omega
  rw [bytesBetween, bytesBetween, bytesBetween, whole, List.take_add, List.drop_drop, further]

/-- The bytes that come next are a piece. -/
theorem bytesBetween_of_drop {bytes front back : List UInt8} {start : Nat}
    (ahead : bytes.drop start = front ++ back) :
    bytesBetween bytes start (start + front.length) = front := by
  rw [bytesBetween, ahead, Nat.add_sub_cancel_left, List.take_left]

end Querent
