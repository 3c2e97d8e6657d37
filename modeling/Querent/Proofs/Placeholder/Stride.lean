import Querent.Placeholder.ByteScan
import Querent.Proofs.Placeholder.Counting
import Querent.Proofs.Text.Bytes

/-! A stride over the bytes of a text is the move over its characters. -/

namespace Querent

/-- Whether a context may be met at an index: comments have been opened, with two bytes for each,
and a tag is one. -/
def Context.Sound (index : Nat) : Context → Prop
  | .blockComment depth => 1 ≤ depth ∧ 2 * depth ≤ index
  | .dollarBody tag => IsTag tag
  | _ => True

/-- A context may be met further on as well. -/
theorem Context.Sound.mono {context : Context} {index further : Nat}
    (sound : context.Sound index) (behind : index ≤ further) : context.Sound further := by
  cases context with
  | blockComment depth => exact ⟨sound.1, Nat.le_trans sound.2 behind⟩
  | dollarBody tag => exact sound
  | _ => trivial

/-- Digits have one byte. -/
theorem single_of_isDigit {c : Char} (digit : c.isDigit = true) : c.utf8Size = 1 :=
  utf8Size_eq_one_iff_lt.mpr (Nat.lt_of_le_of_lt (Char.isDigit_iff_toNat.mp digit).2 (by decide))

/-- Characters that may stand in a tag have one byte. -/
theorem single_of_isTagChar {c : Char} (isTagChar : isTagChar c = true) : c.utf8Size = 1 := by
  -- The letters, the digits and the underscore are all below `0x80`.
  rw [utf8Size_eq_one_iff_lt]
  have below : ∀ last : UInt32, c.val ≤ last → last.toNat < 0x80 → c.toNat < 0x80 :=
    fun last high => Nat.lt_of_le_of_lt (UInt32.le_iff_toNat_le.mp high)
  rcases (Bool.or_eq_true _ _).mp isTagChar with alphanumeric | underscore
  · rcases (Bool.or_eq_true c.isAlpha c.isDigit).mp alphanumeric with letter | digit
    · rcases (Bool.or_eq_true c.isUpper c.isLower).mp letter with upper | lower
      · have range : 65 ≤ c.val ∧ c.val ≤ 90 := of_decide_eq_true upper
        exact below 90 range.2 (by decide)
      · have high := ((Bool.and_eq_true (97 ≤ c.val) (c.val ≤ 122)).mp lower).2
        exact below 122 (of_decide_eq_true high) (by decide)
    · exact utf8Size_eq_one_iff_lt.mp (single_of_isDigit digit)
  · rw [of_decide_eq_true underscore]
    decide

/-- The mark of a style has one byte. -/
theorem PlaceholderStyle.single_marker (style : PlaceholderStyle) : style.marker.utf8Size = 1 := by
  cases style <;> decide

/-- Each character of a tag and of the dollar sign behind it has one byte. -/
theorem IsTag.single_delimiter {tag : List Char} (isTag : IsTag tag) :
    ∀ c ∈ tag ++ ['$'], c.utf8Size = 1 := by
  intro c mem
  rcases List.mem_append.mp mem with inside | last
  · exact single_of_isTagChar (isTag c inside)
  · rw [List.mem_singleton.mp last]
    decide

/-- What is known of a move at an index: where it leads, and what it passes over. -/
structure Move.Sound (move : Move) (index : Nat) (rest : List Char) : Prop where
  /-- The context may be met behind the characters that are passed over. -/
  context : move.context.Sound (index + 1 + move.skip)
  /-- Characters of one byte each are passed over. -/
  passed : ∃ passed back, rest = passed ++ back ∧ passed.length = move.skip ∧
    ∀ d ∈ passed, d.utf8Size = 1

namespace Move.Sound

variable {index : Nat} {rest : List Char} {context : Context}

/-- A move that passes over nothing. -/
theorem stay (c : Char) (sound : context.Sound (index + 1)) :
    Move.Sound ⟨c, 0, context⟩ index rest :=
  ⟨sound, [], rest, rfl, rfl, by simp⟩

/-- A move that passes over the characters in front. -/
theorem pass (c : Char) {front : List Char} {count : Nat} (stands : front <+: rest)
    (size : front.length = count) (single : ∀ d ∈ front, d.utf8Size = 1)
    (sound : context.Sound (index + 1 + count)) : Move.Sound ⟨c, count, context⟩ index rest := by
  obtain ⟨back, rfl⟩ := stands
  exact ⟨sound, front, back, rfl, size, single⟩

/-- A move that passes over the second character of a pair. -/
theorem pair (c : Char) {d : Char} (ahead : rest.head? = some d) (single : d.utf8Size = 1)
    (sound : context.Sound (index + 2)) : Move.Sound ⟨c, 1, context⟩ index rest := by
  have stands : [d] <+: rest := List.singleton_prefix_iff_head?_eq_some.mpr ahead
  exact pass c stands rfl (by simpa using single) sound

end Move.Sound

/-- A move between quotes passes over a quote at most. -/
theorem quotedMove_sound {quote : Char} (single : quote.utf8Size = 1) (inside : Context)
    {index : Nat} (sound : ∀ further, inside.Sound further) (c : Char) (rest : List Char) :
    (quotedMove quote inside c rest).Sound index rest := by
  rw [quotedMove]
  split_ifs with same twice
  · exact .pair c twice single (sound _)
  · exact .stay c trivial
  · exact .stay c (sound _)

/-- A move inside comments passes over one character for each comment that it opens or closes. -/
theorem commentMove_sound {depth index : Nat} (sound : (Context.blockComment depth).Sound index)
    (c : Char) (rest : List Char) : (commentMove depth c rest).Sound index rest := by
  obtain ⟨opened, bound⟩ := sound
  -- An opening pair makes the depth one more and takes two bytes, which keeps half of them enough.
  rw [commentMove]
  split_ifs with opens closes last
  · exact .pair c opens.2 (by decide) ⟨by omega, by omega⟩
  · exact .pair c closes.2 (by decide) trivial
  · exact .pair c closes.2 (by decide) ⟨by omega, by omega⟩
  · exact .stay c ⟨opened, by omega⟩

/-- A tag that is found stands ahead of its second dollar sign. -/
theorem delimiter_of_dollarTag? {tag rest : List Char} (found : dollarTag? rest = some tag) :
    IsTag tag ∧ tag ++ ['$'] <+: rest := by
  rw [PlaceholderStyle.dollarTag?_eq_some_iff, delimiter, List.cons_prefix_cons] at found
  exact ⟨found.1, found.2.2⟩

/-- A move in the statement's own text passes over the rest of what it finds ahead. -/
theorem PlaceholderStyle.plainMove_sound (style : PlaceholderStyle) (index : Nat) (c : Char)
    (rest : List Char) : (style.plainMove c rest).Sound index rest := by
  rw [plainMove]
  split
  · exact .stay c trivial
  split
  · exact .stay c trivial
  split
  · rename_i line
    exact .pair c line.2 (by decide) trivial
  split
  · rename_i block
    exact .pair c block.2 (by decide) ⟨by omega, by omega⟩
  split
  · -- The tag and the dollar sign behind it are passed over.
    rename_i tag found
    obtain ⟨isTag, stands⟩ := delimiter_of_dollarTag? (Option.ite_none_right_eq_some.mp found).2
    exact .pass c stands (by simp) isTag.single_delimiter isTag
  · dsimp only
    split
    · -- The number behind a mark is passed over.
      have digits : ∀ d ∈ rest.takeWhile Char.isDigit, d.utf8Size = 1 := fun d mem =>
        single_of_isDigit (List.mem_takeWhile_imp mem)
      exact .pass style.marker (List.takeWhile_prefix _) rfl digits trivial
    · exact .stay c trivial

/-- Every move leads to a context that may be met, over characters of one byte each. -/
theorem PlaceholderStyle.move_sound (style : PlaceholderStyle) {context : Context} {index : Nat}
    (sound : context.Sound index) (c : Char) (rest : List Char) :
    (style.move context c rest).Sound index rest := by
  cases context with
  | plain => exact style.plainMove_sound index c rest
  | literal => exact quotedMove_sound (by decide) .literal (fun _ => trivial) c rest
  | quotedName => exact quotedMove_sound (by decide) .quotedName (fun _ => trivial) c rest
  | lineComment => exact .stay c (by split <;> trivial)
  | blockComment depth => exact commentMove_sound sound c rest
  | dollarBody tag =>
    rw [move]
    split
    · -- The tag that closes the body is passed over with its dollar sign.
      rename_i closes
      have stands := List.isPrefixOf_iff_prefix.mp closes.2
      exact .pass c stands (by simp) (IsTag.single_delimiter sound) trivial
    · exact .stay c sound

/-- The stride that a move makes at an index. -/
def Move.strideAt (move : Move) (index : Nat) (c : Char) : Stride :=
  ⟨index + 1 + move.skip, move.context, move.write != c⟩

/-- A move that writes the character it is made at rewrites nothing. -/
@[simp]
theorem Move.strideAt_same (c : Char) (skip : Nat) (context : Context) (index : Nat) :
    Move.strideAt ⟨c, skip, context⟩ index c = ⟨index + 1 + skip, context, false⟩ := by
  simp [strideAt]

section

variable {bytes : List UInt8} {index : Nat} {c : Char} {rest : List Char}

/-- The byte behind an index is the first one of what is ahead. -/
theorem byte_ahead_iff (ahead : bytes.drop (index + 1) = charBytes rest) {d : Char}
    (single : d.utf8Size = 1) :
    bytes[index + 1]? = some d.toUInt8 ↔ rest.head? = some d := by
  have next := getElem?_charBytes (List.nil_prefix (l := rest)) (by simp) single
  rwa [← ahead, List.length_nil, List.getElem?_drop, ← List.head?_eq_getElem?] at next

/-- A pair stands at an index if it is the character there and the next one. -/
theorem pairAt_iff (here : bytes[index]? = some c.toUInt8) (single : c.utf8Size = 1)
    (ahead : bytes.drop (index + 1) = charBytes rest) {a b : Char} (single' : a.utf8Size = 1)
    (single'' : b.utf8Size = 1) :
    pairAt bytes index a b = true ↔ c = a ∧ rest.head? = some b := by
  -- Both characters have one byte, so comparing the bytes compares them.
  rw [pairAt, Bool.and_eq_true, beq_iff_eq, beq_iff_eq, here, byte_ahead_iff ahead single'',
    Option.some.injEq, toUInt8_inj single single']

/-- The digits behind a byte are those of the characters behind it. -/
theorem digitsEnd?_eq (ahead : bytes.drop (index + 1) = charBytes rest) :
    digitsEnd? bytes (index + 1) =
      if rest.takeWhile Char.isDigit ≠ [] then
        some (index + 1 + (rest.takeWhile Char.isDigit).length)
      else none := by
  -- Digits are as many bytes as characters.
  have digits : ∀ d ∈ rest.takeWhile Char.isDigit, d.utf8Size = 1 := fun d mem =>
    single_of_isDigit (List.mem_takeWhile_imp mem)
  have size := length_charBytes_of_single digits
  rw [← takeWhile_charBytes fun _ => single_of_isDigit, ← ahead] at size
  simp only [digitsEnd?, size, List.length_pos_iff]

/-- The tag behind a byte is that of the characters behind it. -/
theorem tagAt?_eq (ahead : bytes.drop (index + 1) = charBytes rest) :
    tagAt? bytes index =
      (dollarTag? rest).map fun tag => (tag, index + 1 + tag.length) := by
  have single : ∀ d ∈ rest.takeWhile isTagChar, d.utf8Size = 1 := fun d mem =>
    single_of_isTagChar (List.mem_takeWhile_imp mem)
  -- The tag has as many bytes as characters, and the dollar sign is looked for behind them.
  have size := length_charBytes_of_single single
  have closes := getElem?_charBytes (List.takeWhile_prefix isTagChar) single
    (show '$'.utf8Size = 1 by decide)
  simp only [tagAt?, ahead, takeWhile_charBytes fun _ => single_of_isTagChar, size, closes,
    fromUTF8?_charBytes, dollarTag?, Option.map_some, String.toList_ofList, List.head?_drop]
  split <;> rfl

/-- A tag is closed by the characters behind a byte. -/
theorem closesAt_iff {tag : List Char} (isTag : IsTag tag)
    (ahead : bytes.drop (index + 1) = charBytes rest) :
    closesAt bytes index tag = true ↔ (tag ++ ['$']).isPrefixOf rest = true := by
  -- The bytes of the tag and the byte of the dollar sign stand ahead exactly where they do.
  rw [List.isPrefixOf_iff_prefix, ← charBytes_prefix_iff isTag.single_delimiter, charBytes_append,
    charBytes_of_single (by decide), charBytes_nil, concat_prefix_iff, closesAt, Bool.and_eq_true,
    beq_iff_eq, beq_iff_eq, bytesBetween, ahead, Nat.add_sub_cancel_left, ← ahead,
    List.getElem?_drop]

/-- A stride in the statement's own text is the move there. -/
theorem PlaceholderStyle.plainStride_eq (style : PlaceholderStyle)
    (here : bytes[index]? = some c.toUInt8) (single : c.utf8Size = 1)
    (ahead : bytes.drop (index + 1) = charBytes rest) :
    style.plainStride bytes index c.toUInt8 = (style.plainMove c rest).strideAt index c := by
  have other : style.marker ≠ style.other.marker := by cases style <;> decide
  -- What is looked for behind the byte is found behind the character.
  have tags : (if c = '$' then tagAt? bytes index else none) =
      (if c = '$' then dollarTag? rest else none).map fun tag => (tag, index + 1 + tag.length) := by
    rw [tagAt?_eq ahead]
    split <;> rfl
  have digits : (if c = style.other.marker then digitsEnd? bytes (index + 1) else none) =
      if c = style.other.marker ∧ rest.takeWhile Char.isDigit ≠ [] then
        some (index + 1 + (rest.takeWhile Char.isDigit).length)
      else none := by
    rw [digitsEnd?_eq ahead]
    split_ifs <;> simp_all
  simp (disch := decide) only [plainStride, plainMove, toUInt8_inj single,
    toUInt8_inj single style.other.single_marker, tags, digits,
    pairAt_iff here single ahead]
  -- Both sides ask the same questions, so they agree branch by branch.
  cases (if c = '$' then dollarTag? rest else none) with
  | some tag => split_ifs <;> simp [Nat.add_assoc]
  | none =>
    split_ifs with literal name line block placeholder
    · simp
    · simp
    · simp
    · simp
    · -- Only here is another character written.
      simp [Move.strideAt, placeholder.1, other]
    · simp

/-- A stride between quotes is the move there. -/
theorem quotedStride_eq {quote : Char} (single' : quote.utf8Size = 1) (inside : Context)
    (single : c.utf8Size = 1) (ahead : bytes.drop (index + 1) = charBytes rest) :
    quotedStride quote inside bytes index c.toUInt8 =
      (quotedMove quote inside c rest).strideAt index c := by
  simp only [quotedStride, quotedMove, toUInt8_inj single single', byte_ahead_iff ahead single']
  split_ifs <;> simp [Move.strideAt]

/-- A stride inside comments is the move there, unless the depth it leads to cannot be counted. -/
theorem commentStride_eq {depth : Nat} (here : bytes[index]? = some c.toUInt8)
    (single : c.utf8Size = 1) (ahead : bytes.drop (index + 1) = charBytes rest)
    (opened : 1 ≤ depth) (counted : depth < UInt32.size) :
    commentStride depth bytes index =
      if (commentMove depth c rest).context.Counted then
        .ok ((commentMove depth c rest).strideAt index c)
      else .error (.badDepth depth) := by
  have counted' : depth - 1 < UInt32.size := Nat.lt_of_le_of_lt (Nat.sub_le ..) counted
  simp (disch := decide) only [commentStride, commentMove, pairAt_iff here single ahead]
  -- Only an opening pair leads to a depth that is larger.
  split_ifs <;> (simp_all [Context.Counted, Context.Fits]; try omega)

/-- Only in comments is there a depth to be counted. -/
theorem PlaceholderStyle.counted_move (style : PlaceholderStyle) {context : Context}
    (outside : ∀ depth, context ≠ .blockComment depth) (c : Char) (rest : List Char) :
    (style.move context c rest).context.Counted := by
  have first : (Context.blockComment 1).Counted := by decide
  cases context with
  | plain =>
    rw [move, plainMove]
    -- A comment that opens here is the first one.
    split_ifs
    · trivial
    · trivial
    · trivial
    · exact first
    · split
      · trivial
      · dsimp only
        split <;> trivial
    · dsimp only
      split <;> trivial
  | blockComment depth => exact absurd rfl (outside depth)
  | literal =>
    rw [move, quotedMove]
    split_ifs <;> trivial
  | quotedName =>
    rw [move, quotedMove]
    split_ifs <;> trivial
  | lineComment =>
    rw [move]
    dsimp only
    split <;> trivial
  | dollarBody tag =>
    rw [move]
    split_ifs <;> trivial

/-- A stride at a character of one byte is the move at the character, unless the depth that it leads
to is the first one that cannot be counted. -/
theorem PlaceholderStyle.stride_eq (style : PlaceholderStyle) {context : Context}
    (here : bytes[index]? = some c.toUInt8) (single : c.utf8Size = 1)
    (ahead : bytes.drop (index + 1) = charBytes rest) (sound : context.Sound index)
    (counted : context.Counted) :
    style.stride bytes index c.toUInt8 context =
      if (style.move context c rest).context.Counted then
        .ok ((style.move context c rest).strideAt index c)
      else .error (.badDepth (UInt32.size - 1)) := by
  by_cases outside : ∀ depth, context ≠ .blockComment depth
  · rw [if_pos (style.counted_move outside c rest)]
    cases context with
    | plain => exact congrArg Except.ok (style.plainStride_eq here single ahead)
    | literal => exact congrArg Except.ok (quotedStride_eq (by decide) .literal single ahead)
    | quotedName => exact congrArg Except.ok (quotedStride_eq (by decide) .quotedName single ahead)
    | lineComment =>
      simp (disch := decide) only [stride, move, toUInt8_inj single, Move.strideAt_same,
        Nat.add_zero]
    | blockComment depth => exact absurd rfl (outside depth)
    | dollarBody tag =>
      have size := length_charBytes_of_single fun d mem => single_of_isTagChar (sound d mem)
      simp (disch := decide) only [stride, move, toUInt8_inj single, closesAt_iff sound ahead, size]
      split
      · rw [Move.strideAt_same,
          show index + tag.length + 2 = index + 1 + (tag.length + 1) by omega]
      · simp only [Move.strideAt_same, Nat.add_zero]
  · simp only [ne_eq, not_forall, not_not] at outside
    obtain ⟨depth, rfl⟩ := outside
    refine (commentStride_eq here single ahead sound.1 counted).trans ?_
    rw [move]
    split
    · rfl
    · rename_i not
      -- The depth is one more than before, so that it was the largest one before.
      have last : depth = UInt32.size - 1 := by
        have most : depth < UInt32.size := counted
        rw [commentMove] at not
        split_ifs at not with opens closes ends
        · have past : UInt32.size ≤ depth + 1 := Nat.not_lt.mp not
          omega
        · exact absurd trivial not
        · exact absurd (Nat.lt_of_le_of_lt (Nat.sub_le depth 1) most) not
        · exact absurd most not
      rw [last]

/-- A byte from `0x80` on is passed by in every context. -/
theorem PlaceholderStyle.stride_high (style : PlaceholderStyle) {byte : UInt8}
    (here : bytes[index]? = some byte) (high : 0x80 ≤ byte.toNat) (context : Context) :
    style.stride bytes index byte context = .ok ⟨index + 1, context, false⟩ := by
  -- It is none of the bytes that are looked for.
  have differs : ∀ d : Char, d.utf8Size = 1 → byte ≠ d.toUInt8 := by
    rintro d single rfl
    rw [toNat_toUInt8 single] at high
    exact Nat.not_lt.mpr high (utf8Size_eq_one_iff_lt.mp single)
  have noPair : ∀ a b : Char, a.utf8Size = 1 → pairAt bytes index a b = false := by
    intro a b single
    simp [pairAt, here, differs a single]
  cases context with
  | plain =>
    simp (disch := decide) [stride, plainStride, differs, differs _ style.other.single_marker,
      noPair]
  | blockComment depth => simp (disch := decide) [stride, commentStride, noPair]
  | literal => simp (disch := decide) [stride, quotedStride, differs]
  | quotedName => simp (disch := decide) [stride, quotedStride, differs]
  | lineComment => simp (disch := decide) [stride, differs]
  | dollarBody tag => simp (disch := decide) [stride, differs]

/-- A character of several bytes is written as it is in every context. -/
theorem PlaceholderStyle.move_several (style : PlaceholderStyle) (several : c.utf8Size ≠ 1)
    (context : Context) : style.move context c rest = ⟨c, 0, context⟩ := by
  -- It is none of the characters that are looked for.
  have differs : ∀ d : Char, d.utf8Size = 1 → c ≠ d := fun d single same =>
    several (same ▸ single)
  cases context with
  | plain => simp (disch := decide) [move, plainMove, differs, differs _ style.other.single_marker]
  | blockComment depth => simp (disch := decide) [move, commentMove, differs]
  | literal => simp (disch := decide) [move, quotedMove, differs]
  | quotedName => simp (disch := decide) [move, quotedMove, differs]
  | lineComment => simp (disch := decide) [move, differs]
  | dollarBody tag => simp (disch := decide) [move, differs]

end

end Querent
