import Querent.Placeholder.Statement
import Querent.Proofs.Placeholder.Stride

/-! A scan by bytes never breaks off, and translates a text as the machine over characters does. -/

namespace Querent

/-- What holds of a scan between two turns. -/
structure ByteScan.Sound (text : String) (scan : ByteScan) : Prop where
  /-- No byte is copied before it is read. -/
  ordered : scan.copied ≤ scan.index
  /-- The text ends at the index or behind it. -/
  inside : scan.index ≤ text.utf8ByteSize
  /-- The text is copied up to the end of a character. -/
  boundary : IsBoundary text scan.copied
  /-- The context may be met at the index. -/
  context : scan.context.Sound scan.index
  /-- The depth of the context can be counted. -/
  counted : scan.context.Counted
  /-- For every byte that is copied one is written. -/
  size : (scan.written.getD []).length = scan.copied

/-- Nothing is copied at the start. -/
theorem ByteScan.sound_start (text : String) : ByteScan.start.Sound text where
  ordered := Nat.le_refl 0
  inside := Nat.zero_le _
  boundary := String.Pos.Raw.isValid_zero
  context := trivial
  counted := trivial
  size := rfl

/-- The bytes that a scan has made of those that are read. -/
def ByteScan.emitted (text : String) (scan : ByteScan) : List UInt8 :=
  scan.written.getD [] ++ bytesBetween (textBytes text) scan.copied scan.index

/-- A scan has made as many bytes as are read. -/
theorem ByteScan.Sound.length_emitted {text : String} {scan : ByteScan} (sound : scan.Sound text) :
    (scan.emitted text).length = scan.index := by
  -- What is written is as long as what is copied, and the rest is the piece up to the index.
  have inside := sound.inside
  rw [← length_textBytes] at inside
  rw [emitted, List.length_append, sound.size, length_bytesBetween inside]
  have ordered := sound.ordered
  omega

/-- Whether a scan stands between the characters in front and those that are left. -/
structure ByteScan.Between (text : String) (scan : ByteScan) (front rest : List Char) : Prop where
  /-- The characters are those of the text. -/
  split : text.toList = front ++ rest
  /-- The bytes of those in front are read. -/
  index : scan.index = (charBytes front).length

namespace ByteScan.Between

variable {text : String} {scan : ByteScan} {front rest : List Char}

/-- The bytes that are left are those of the characters that are left. -/
theorem drop_index (between : scan.Between text front rest) :
    (textBytes text).drop scan.index = charBytes rest := by
  rw [textBytes_eq, between.split, charBytes_append, between.index, List.drop_left]

/-- At a character of one byte, the byte is read next. -/
theorem here {c : Char} (between : scan.Between text front (c :: rest)) (single : c.utf8Size = 1) :
    (textBytes text)[scan.index]? = some c.toUInt8 := by
  rw [← List.head?_drop, between.drop_index, charBytes_of_single single, List.head?_cons]

/-- Behind a character of one byte, the bytes are those of the other characters. -/
theorem ahead {c : Char} (between : scan.Between text front (c :: rest)) (single : c.utf8Size = 1) :
    (textBytes text).drop (scan.index + 1) = charBytes rest := by
  rw [← List.drop_drop, between.drop_index, charBytes_of_single single, List.drop_one,
    List.tail_cons]

/-- The text may be cut where the scan stands. -/
theorem boundary (between : scan.Between text front rest) : IsBoundary text scan.index :=
  between.index ▸ isBoundary_of_split between.split

/-- A scan stands further on when some more characters are read. -/
theorem advance {passed back : List Char} {next : ByteScan}
    (between : scan.Between text front (passed ++ back))
    (index : next.index = scan.index + (charBytes passed).length) :
    next.Between text (front ++ passed) back where
  split := by rw [between.split, List.append_assoc]
  index := by rw [index, between.index, charBytes_append, List.length_append]

/-- The text may be cut behind some more characters, and their bytes are the piece up to there. -/
theorem further {passed back : List Char} (between : scan.Between text front (passed ++ back)) :
    IsBoundary text (scan.index + (charBytes passed).length) ∧
      bytesBetween (textBytes text) scan.index (scan.index + (charBytes passed).length) =
        charBytes passed ∧
      scan.index + (charBytes passed).length ≤ text.utf8ByteSize := by
  -- The characters that are passed are added to those in front.
  have split : text.toList = (front ++ passed) ++ back := by
    rw [between.split, List.append_assoc]
  have cut := isBoundary_of_split split
  rw [charBytes_append, List.length_append, ← between.index] at cut
  have ahead := between.drop_index
  rw [charBytes_append] at ahead
  exact ⟨cut, bytesBetween_of_drop ahead, cut.le_utf8ByteSize⟩

end ByteScan.Between

/-- Whether the pieces around a mark may be copied, where its number goes up to an index. -/
structure ByteScan.Cuts (text : String) (scan : ByteScan) (stop : Nat) : Prop where
  /-- The piece before the mark ends where the mark stands, and the number is behind it. -/
  ordered : scan.copied ≤ scan.index ∧ scan.index + 1 ≤ stop ∧ stop ≤ text.utf8ByteSize
  /-- The piece before the mark is one of characters. -/
  before : IsBoundary text scan.copied ∧ IsBoundary text scan.index
  /-- The number is a piece of characters. -/
  number : IsBoundary text (scan.index + 1) ∧ IsBoundary text stop

/-- What a turn makes of a sound scan. -/
structure ByteScan.Follows (text : String) (scan next : ByteScan) : Prop where
  /-- The scan is sound again. -/
  sound : next.Sound text
  /-- The index has moved on. -/
  forward : scan.index < next.index
  /-- Where pieces were copied, they could be. -/
  cuts : next.copied = scan.copied ∨ next.copied = next.index ∧ scan.Cuts text next.index

/-- Whether some characters have been written for those that were read from one scan to another. -/
structure ByteScan.Reads (text : String) (scan next : ByteScan) (chars written : List Char) :
    Prop where
  /-- The characters are behind those written before. -/
  emitted : next.emitted text = scan.emitted text ++ charBytes written
  /-- There are as many of them. -/
  length : written.length = chars.length
  /-- A text is begun by the first character that is rewritten. -/
  begun : next.written.isSome = true ↔ scan.written.isSome = true ∨ written ≠ chars

/-- What is read in two parts is read. -/
theorem ByteScan.Reads.trans {text : String} {scan next last : ByteScan}
    {chars written more others : List Char} (reads : scan.Reads text next chars written)
    (reads' : next.Reads text last more others) :
    scan.Reads text last (chars ++ more) (written ++ others) where
  emitted := by
    rw [reads'.emitted, reads.emitted, charBytes_append, List.append_assoc]
  length := by
    rw [List.length_append, List.length_append, reads.length, reads'.length]
  begun := by
    -- As many characters are written as are read, so the parts are compared one by one.
    rw [reads'.begun, reads.begun, ne_eq (written ++ others),
      List.append_eq_append_iff_of_size_eq_left reads.length, not_and_or, or_assoc]

namespace ByteScan.Sound

variable {text : String} {scan : ByteScan} {stop : Nat} {context : Context} {chars : List Char}

/-- A scan that only moves on is sound again. -/
theorem follows_pass (sound : scan.Sound text) (forward : scan.index < stop)
    (inside : stop ≤ text.utf8ByteSize) (met : context.Sound stop) (counted : context.Counted) :
    scan.Follows text ⟨stop, scan.copied, context, scan.written⟩ where
  sound := ⟨Nat.le_of_lt (Nat.lt_of_le_of_lt sound.ordered forward), inside, sound.boundary, met,
    counted, sound.size⟩
  forward := forward
  cuts := .inl rfl

/-- A scan that only moves on writes what it reads. -/
theorem reads_pass (sound : scan.Sound text) (forward : scan.index ≤ stop)
    (piece : bytesBetween (textBytes text) scan.index stop = charBytes chars) :
    scan.Reads text ⟨stop, scan.copied, context, scan.written⟩ chars chars where
  emitted := by
    -- The piece that waits to be copied gets longer.
    rw [emitted, emitted, ← piece, List.append_assoc, bytesBetween_append _ sound.ordered forward]
  length := rfl
  begun := by simp

/-- A scan that copies the pieces around a mark is sound again. -/
theorem follows_rewrite (sound : scan.Sound text) (cuts : scan.Cuts text stop)
    (met : context.Sound stop) (counted : context.Counted) {mark : Char}
    (single : mark.utf8Size = 1) :
    scan.Follows text ⟨stop, stop, context, some (scan.emitted text ++ charBytes [mark] ++
      bytesBetween (textBytes text) (scan.index + 1) stop)⟩ where
  sound := by
    obtain ⟨-, further, inside⟩ := cuts.ordered
    refine ⟨Nat.le_refl stop, inside, cuts.number.2, met, counted, ?_⟩
    -- The mark takes the place of the one that is read.
    rw [← length_textBytes] at inside
    rw [Option.getD_some, List.length_append, List.length_append, sound.length_emitted,
      length_bytesBetween inside, charBytes_of_single single, charBytes_nil, List.length_singleton]
    dsimp only
    omega
  forward := cuts.ordered.2.1
  cuts := .inr ⟨rfl, cuts⟩

end ByteScan.Sound

/-- A scan that copies the pieces around a mark writes the mark for the one that it reads. -/
theorem ByteScan.reads_rewrite {text : String} {scan : ByteScan} {stop : Nat} {context : Context}
    {mark c : Char} {chars : List Char} (differs : mark ≠ c)
    (piece : bytesBetween (textBytes text) (scan.index + 1) stop = charBytes chars) :
    scan.Reads text ⟨stop, stop, context, some (scan.emitted text ++ charBytes [mark] ++
      bytesBetween (textBytes text) (scan.index + 1) stop)⟩ (c :: chars) (mark :: chars) where
  emitted := by
    -- Nothing waits to be copied behind the number.
    rw [piece, emitted, bytesBetween, Nat.sub_self, List.take_zero, List.append_nil,
      Option.getD_some, List.append_assoc, ← charBytes_append, List.singleton_append]
  length := rfl
  begun := by simp [differs]

namespace PlaceholderStyle

variable (style : PlaceholderStyle) {text : String} {scan : ByteScan} {byte : UInt8}
  {context : Context} {stop : Nat}

/-- A stride that rewrites nothing leads on. -/
theorem turn_pass (here : (textBytes text)[scan.index]? = some byte)
    (stride : style.stride (textBytes text) scan.index byte scan.context =
      .ok ⟨stop, context, false⟩) :
    style.turn text scan = .ok ⟨stop, scan.copied, context, scan.written⟩ := by
  simp [turn, here, stride, bind, Except.bind, pure, Except.pure]

/-- A stride that rewrites a mark copies the pieces before and behind it. -/
theorem turn_rewrite (here : (textBytes text)[scan.index]? = some byte)
    (stride : style.stride (textBytes text) scan.index byte scan.context =
      .ok ⟨stop, context, true⟩) (cuts : scan.Cuts text stop) :
    style.turn text scan = .ok ⟨stop, stop, context,
      some (scan.emitted text ++ charBytes [style.marker] ++
        bytesBetween (textBytes text) (scan.index + 1) stop)⟩ := by
  obtain ⟨⟨ordered, further, -⟩, before, number⟩ := cuts
  -- Both pieces are in order and end between characters, so that they can be had.
  have copied : textBetween text scan.copied scan.index = _ := if_pos ⟨ordered, before⟩
  have copied' : textBetween text (scan.index + 1) stop = _ := if_pos ⟨further, number⟩
  simp [turn, here, stride, copied, copied', bind, Except.bind, pure, Except.pure,
    ByteScan.emitted]

/-- A move writes the character it is made at, or the mark of the style. -/
theorem move_write (context : Context) (c : Char) (rest : List Char) :
    (style.move context c rest).write = c ∨ (style.move context c rest).write = style.marker := by
  cases context with
  | plain =>
    -- Only behind the last question is a mark written.
    rw [move, plainMove]
    iterate 4
      split
      · exact .inl rfl
    split
    · exact .inl rfl
    · dsimp only
      split
      · exact .inr rfl
      · exact .inl rfl
  | blockComment depth =>
    rw [move, commentMove]
    split_ifs <;> exact .inl rfl
  | literal =>
    rw [move, quotedMove]
    split_ifs <;> exact .inl rfl
  | quotedName =>
    rw [move, quotedMove]
    split_ifs <;> exact .inl rfl
  | lineComment => exact .inl rfl
  | dollarBody tag =>
    rw [move]
    split_ifs <;> exact .inl rfl

/-- A turn at a character of one byte is the move at the character, where the depth can be counted.
-/
theorem turn_of_single {front rest : List Char} {c : Char} (sound : scan.Sound text)
    (between : scan.Between text front (c :: rest)) (single : c.utf8Size = 1)
    (counted : (style.move scan.context c rest).context.Counted) :
    ∃ next passed back, style.turn text scan = .ok next ∧ scan.Follows text next ∧
      rest = passed ++ back ∧ passed.length = (style.move scan.context c rest).skip ∧
      next.Between text (front ++ c :: passed) back ∧
      next.context = (style.move scan.context c rest).context ∧
      scan.Reads text next (c :: passed) ((style.move scan.context c rest).write :: passed) := by
  obtain ⟨context, passed, back, split, size, single'⟩ := style.move_sound sound.context c rest
  have here := between.here single
  have ahead := between.ahead single
  have stride := style.stride_eq here single ahead sound.context sound.counted
  rw [if_pos counted] at stride
  have written := style.move_write scan.context c rest
  generalize style.move scan.context c rest = move at *
  subst split
  -- The stride ends behind the characters that are passed over.
  have count := length_charBytes_of_single single'
  have between' : scan.Between text front ((c :: passed) ++ back) := between
  obtain ⟨cut, piece, inside⟩ := between'.further
  have stop : scan.index + (charBytes (c :: passed)).length = scan.index + 1 + move.skip := by
    rw [charBytes_of_single single, List.length_cons, count, size]
    omega
  rw [stop] at cut piece inside
  by_cases same : move.write = c
  · -- Nothing is copied yet.
    have stride' : style.stride (textBytes text) scan.index c.toUInt8 scan.context =
        .ok ⟨scan.index + 1 + move.skip, move.context, false⟩ := by
      rw [stride, Move.strideAt, same, bne_self_eq_false]
    rw [same]
    exact ⟨_, passed, back, turn_pass style here stride',
      sound.follows_pass (by omega) inside context counted, rfl, size, between'.advance stop.symm,
        rfl,
      sound.reads_pass (by omega) piece⟩
  · -- The pieces up to the mark and behind it are cut between characters.
    have mark := written.resolve_left same
    have stride' : style.stride (textBytes text) scan.index c.toUInt8 scan.context =
        .ok ⟨scan.index + 1 + move.skip, move.context, true⟩ := by
      rw [stride, Move.strideAt, bne_iff_ne.mpr same]
    have behind : scan.Between text front ([c] ++ (passed ++ back)) := between
    have cut' := behind.further.1
    rw [charBytes_of_single single, charBytes_nil, List.length_singleton] at cut'
    have cuts : scan.Cuts text (scan.index + 1 + move.skip) :=
      ⟨⟨sound.ordered, by omega, inside⟩, ⟨sound.boundary, between.boundary⟩, cut', cut⟩
    rw [mark] at same ⊢
    refine ⟨_, passed, back, turn_rewrite style here stride' cuts,
      sound.follows_rewrite cuts context counted style.single_marker, rfl, size,
      between'.advance stop.symm,
        rfl, ByteScan.reads_rewrite same ?_⟩
    rw [charBytes_append] at ahead
    rw [← size, ← count, bytesBetween_of_drop ahead]

/-- A turn breaks off where a move leads to a depth that cannot be counted. -/
theorem turn_of_not_counted {front rest : List Char} {c : Char} (sound : scan.Sound text)
    (between : scan.Between text front (c :: rest)) (single : c.utf8Size = 1)
    (not : ¬(style.move scan.context c rest).context.Counted) :
    style.turn text scan = .error (.badDepth (UInt32.size - 1)) := by
  have here := between.here single
  have stride := style.stride_eq here single (between.ahead single) sound.context sound.counted
  rw [if_neg not] at stride
  simp [turn, here, stride, bind, Except.bind]

/-- A turn at a byte of a character that has several only moves on. -/
theorem turn_high (here : (textBytes text)[scan.index]? = some byte)
    (high : 0x80 ≤ byte.toNat) :
    style.turn text scan = .ok ⟨scan.index + 1, scan.copied, scan.context, scan.written⟩ :=
  turn_pass style here (style.stride_high here high scan.context)

/-- In a text that is short enough, a move leads to no depth that cannot be counted. -/
theorem counted_of_short {front rest : List Char} {c : Char} (sound : scan.Sound text)
    (between : scan.Between text front (c :: rest)) (short : text.utf8ByteSize < 2 * UInt32.size) :
    (style.move scan.context c rest).context.Counted := by
  obtain ⟨met, passed, back, rfl, size, single⟩ := style.move_sound sound.context c rest
  -- The move ends inside of the text, and each open comment has taken two bytes of that.
  have between' : scan.Between text front ((c :: passed) ++ back) := between
  have inside := between'.further.2.2
  have some : 0 < c.utf8Size := c.utf8Size_pos
  rw [charBytes_cons, List.length_append, String.length_utf8EncodeChar,
    length_charBytes_of_single single, size] at inside
  generalize style.move scan.context c (passed ++ back) = move at met inside
  cases context : move.context with
  | blockComment depth =>
    rw [context] at met
    have bound : 2 * depth ≤ scan.index + 1 + move.skip := met.2
    have fits : depth < UInt32.size := by omega
    exact fits
  | _ => trivial

/-- A turn of a sound scan makes a scan that is sound again. -/
theorem turn_of_sound (sound : scan.Sound text) (more : scan.index < text.utf8ByteSize)
    (short : text.utf8ByteSize < 2 * UInt32.size) :
    ∃ next, style.turn text scan = .ok next ∧ scan.Follows text next := by
  obtain ⟨byte, here⟩ : ∃ byte, (textBytes text)[scan.index]? = some byte :=
    ⟨_, List.getElem?_eq_getElem (by rwa [length_textBytes])⟩
  by_cases low : byte.toNat < 0x80
  · -- The byte is a character, at which the scan stands.
    rw [textBytes_eq] at here
    obtain ⟨front, c, rest, split, single, -, size⟩ := exists_split_of_low here low
    have between : scan.Between text front (c :: rest) := ⟨split, size.symm⟩
    obtain ⟨next, -, -, turned, follows, -⟩ := style.turn_of_single sound between single
      (style.counted_of_short sound between short)
    exact ⟨next, turned, follows⟩
  · exact ⟨_, style.turn_high here (Nat.not_lt.mp low),
      sound.follows_pass (Nat.lt_succ_self _) more (sound.context.mono (Nat.le_succ _))
        sound.counted⟩

/-- All turns that are left are those after the next one. -/
theorem finish_of_turn {next : ByteScan} (more : scan.index < text.utf8ByteSize)
    (turned : style.turn text scan = .ok next) :
    style.finish text scan = style.finish text next := by
  rw [finish, if_pos more]
  split
  · rename_i fault failed
    rw [turned] at failed
    cases failed
  · rename_i other turned'
    rw [turned] at turned'
    rw [Except.ok.inj turned']

/-- The turns at the bytes of a character that has several only move on. -/
theorem finish_of_high {high more : List UInt8} (sound : scan.Sound text)
    (ahead : (textBytes text).drop scan.index = high ++ more)
    (several : ∀ byte ∈ high, 0x80 ≤ byte.toNat) :
    style.finish text scan =
      style.finish text ⟨scan.index + high.length, scan.copied, scan.context, scan.written⟩ := by
  -- The scan is inside the character after each byte but the last, where no piece is cut.
  induction high generalizing scan with
  | nil => rfl
  | cons byte high ih =>
    obtain ⟨first, others⟩ := List.forall_mem_cons.mp several
    have here : (textBytes text)[scan.index]? = some byte := by
      rw [← List.head?_drop, ahead, List.cons_append, List.head?_cons]
    have ahead' : (textBytes text).drop (scan.index + 1) = high ++ more := by
      rw [← List.drop_drop, ahead, List.cons_append, List.drop_one, List.tail_cons]
    obtain ⟨left, -⟩ := List.getElem?_eq_some_iff.mp here
    rw [length_textBytes] at left
    have follows := sound.follows_pass (Nat.lt_succ_self _) left
      (sound.context.mono (Nat.le_succ _)) sound.counted
    rw [style.finish_of_turn left (style.turn_high here first), ih follows.sound ahead' others]
    simp only [List.length_cons, Nat.succ_eq_add_one, Nat.add_assoc, Nat.add_comm 1]

/-- The turns at a character of several bytes read it as it is, in the same context. -/
theorem finish_of_several {front rest : List Char} {c : Char} (sound : scan.Sound text)
    (between : scan.Between text front (c :: rest)) (several : c.utf8Size ≠ 1) :
    ∃ next, style.finish text scan = style.finish text next ∧ next.Sound text ∧
      next.Between text (front ++ [c]) rest ∧ next.context = scan.context ∧
      scan.Reads text next [c] [c] := by
  have ahead := between.drop_index
  rw [charBytes_cons] at ahead
  have alone : scan.Between text front ([c] ++ rest) := between
  have bytes : charBytes [c] = String.utf8EncodeChar c := List.append_nil _
  obtain ⟨-, piece, inside⟩ := alone.further
  rw [bytes] at piece inside
  have some : 0 < (String.utf8EncodeChar c).length :=
    List.length_pos_iff.mpr String.utf8EncodeChar_ne_nil
  have forward : scan.index < scan.index + (String.utf8EncodeChar c).length := by omega
  have met := sound.context.mono (Nat.le_of_lt forward)
  exact ⟨_, style.finish_of_high sound ahead fun _ => le_of_mem_utf8EncodeChar several,
    (sound.follows_pass forward inside met sound.counted).sound, alone.advance (by rw [bytes]), rfl,
    sound.reads_pass (Nat.le_of_lt forward) (piece.trans bytes.symm)⟩

/-- The turns at a character are the move at the character, where the depth can be counted. -/
theorem finish_of_char {front rest : List Char} {c : Char} (sound : scan.Sound text)
    (between : scan.Between text front (c :: rest))
    (counted : (style.move scan.context c rest).context.Counted) :
    ∃ next passed back, style.finish text scan = style.finish text next ∧ next.Sound text ∧
      rest = passed ++ back ∧ passed.length = (style.move scan.context c rest).skip ∧
      next.Between text (front ++ c :: passed) back ∧
      next.context = (style.move scan.context c rest).context ∧
      scan.Reads text next (c :: passed) ((style.move scan.context c rest).write :: passed) := by
  by_cases single : c.utf8Size = 1
  · -- One turn is enough for it and for what it passes over.
    obtain ⟨next, passed, back, turned, follows, read⟩ :=
      style.turn_of_single sound between single counted
    have left := Nat.lt_of_lt_of_le follows.forward follows.sound.inside
    exact ⟨next, passed, back, style.finish_of_turn left turned, follows.sound, read⟩
  · -- Each of its bytes takes a turn of its own, and the move leaves it as it is.
    obtain ⟨next, same, sound', between', context, reads⟩ :=
      style.finish_of_several sound between single
    rw [style.move_several single]
    exact ⟨next, [], rest, same, sound', rfl, rfl, between', context, reads⟩

/-- The turns break off at a character whose move leads to a depth that cannot be counted. -/
theorem finish_of_not_counted {front rest : List Char} {c : Char} (sound : scan.Sound text)
    (between : scan.Between text front (c :: rest))
    (not : ¬(style.move scan.context c rest).context.Counted) :
    style.finish text scan = .error (.badDepth (UInt32.size - 1)) := by
  -- A character of several bytes leaves the context as it is.
  have single : c.utf8Size = 1 := by
    by_contra several
    rw [style.move_several several] at not
    exact not sound.counted
  have turned := style.turn_of_not_counted sound between single not
  have behind : scan.Between text front ([c] ++ rest) := between
  have left := behind.further.2.2
  rw [charBytes_of_single single, charBytes_nil, List.length_singleton] at left
  rw [finish, if_pos (by omega)]
  split
  · rename_i fault failed
    rw [turned] at failed
    rw [Except.error.inj failed]
  · rename_i next turned'
    rw [turned] at turned'
    cases turned'

/-- What is left of a text is read as the machine over characters reads it, or breaks off where that
comes to a depth that cannot be counted. -/
theorem finish_reads {front rest : List Char} (sound : scan.Sound text)
    (between : scan.Between text front rest) :
    (style.counts 0 scan.context rest = true → ∃ last, style.finish text scan = .ok last ∧
      last.Sound text ∧ last.index = text.utf8ByteSize ∧
      scan.Reads text last rest (style.restyle 0 scan.context rest)) ∧
    (style.counts 0 scan.context rest = false →
      style.finish text scan = .error (.badDepth (UInt32.size - 1))) := by
  -- The characters left get fewer, and those passed over at once are not looked at again.
  induction size : rest.length using Nat.strongRecOn generalizing scan front rest with
  | ind size ih =>
    subst size
    have here := decide_eq_true sound.counted
    match rest with
    | [] =>
      -- With no character left, all bytes are read and the turns are over.
      have ends : scan.index = text.utf8ByteSize := by
        rw [between.index, ← length_textBytes, textBytes_eq, between.split, List.append_nil]
      refine ⟨fun _ => ⟨scan, ?_, sound, ends, sound.reads_pass (Nat.le_refl _) ?_⟩, fun not => ?_⟩
      · rw [finish, if_neg (by omega)]
      · rw [bytesBetween, Nat.sub_self, List.take_zero, charBytes_nil]
      · exact absurd (here.symm.trans not) (by decide)
    | c :: rest =>
      by_cases counted : (style.move scan.context c rest).context.Counted
      · obtain ⟨next, passed, back, same, sound', rfl, count, between', context, reads⟩ :=
          style.finish_of_char sound between counted
        obtain ⟨reads', breaks⟩ :=
          ih back.length (by rw [List.length_cons, List.length_append]; omega) sound' between' rfl
        rw [counts_cons, here, Bool.true_and, counts_skip _ _ _ count, ← context, same]
        refine ⟨fun counts => ?_, breaks⟩
        obtain ⟨last, finished, sound'', ends, reads'⟩ := reads' counts
        refine ⟨last, finished, sound'', ends, ?_⟩
        rw [restyle_cons, restyle_skip _ _ _ _ count, ← context]
        exact reads.trans reads'
      · -- The move leads to a context in which no text is read.
        obtain ⟨-, passed, back, rfl, size, -⟩ := style.move_sound sound.context c rest
        rw [counts_cons, here, Bool.true_and, counts_skip _ _ _ size, counts_of_not_counted counted]
        refine ⟨fun counts => absurd counts Bool.false_ne_true, fun _ => ?_⟩
        exact style.finish_of_not_counted sound between counted

/-- The scans between two turns. -/
inductive Reaches (text : String) : ByteScan → Prop
  | start : Reaches text .start
  | turn {scan next : ByteScan} : Reaches text scan → scan.index < text.utf8ByteSize →
      style.turn text scan = .ok next → Reaches text next

/-- Every scan that is reached is sound, for each turn makes a sound one. -/
theorem Reaches.sound {style : PlaceholderStyle} (reaches : style.Reaches text scan)
    (short : text.utf8ByteSize < 2 * UInt32.size) : scan.Sound text := by
  induction reaches with
  | start => exact ByteScan.sound_start text
  | turn _ more turned ih =>
    -- The next scan is the one that a sound scan is known to lead to.
    obtain ⟨next, turned', follows⟩ := style.turn_of_sound ih more short
    obtain rfl : next = _ := Except.ok.inj (turned'.symm.trans turned)
    exact follows.sound

/-- Nothing breaks off a scan of a text here. -/
structure Safe (text : String) (scan : ByteScan) : Prop where
  /-- The index is never behind the end of the text. -/
  inside : scan.index ≤ text.utf8ByteSize
  /-- In comments, some are open and each of them has taken two bytes. -/
  depth : ∀ depth, scan.context = .blockComment depth → 1 ≤ depth ∧ 2 * depth ≤ scan.index
  /-- As long as bytes are left there is a turn, which leads forward and not past the end. -/
  forward : scan.index < text.utf8ByteSize → ∃ next, style.turn text scan = .ok next ∧
    scan.index < next.index ∧ next.index ≤ text.utf8ByteSize
  /-- Around a mark that is rewritten, the pieces are in order and cut between characters. -/
  cuts : ∀ byte stride, (textBytes text)[scan.index]? = some byte →
    style.stride (textBytes text) scan.index byte scan.context = .ok stride →
    stride.rewrites = true → scan.Cuts text stride.stop
  /-- The piece that is left to be copied is cut between characters. -/
  rest : scan.copied ≤ text.utf8ByteSize ∧ IsBoundary text scan.copied ∧
    IsBoundary text text.utf8ByteSize

/-- A scan that is sound is safe. -/
theorem safe_of_sound (sound : scan.Sound text) (short : text.utf8ByteSize < 2 * UInt32.size) :
    style.Safe text scan where
  inside := sound.inside
  depth depth comment := by
    have met := sound.context
    rwa [comment] at met
  forward more := by
    obtain ⟨next, turned, follows⟩ := style.turn_of_sound sound more short
    exact ⟨next, turned, follows.forward, follows.sound.inside⟩
  cuts byte stride here found rewrites := by
    -- The stride is the one of the turn, which copied the pieces around the mark.
    obtain ⟨more, -⟩ := List.getElem?_eq_some_iff.mp here
    rw [length_textBytes] at more
    obtain ⟨next, turned, follows⟩ := style.turn_of_sound sound more short
    obtain ⟨byte', stride', here', found', stop, copied⟩ := exists_stride_of_turn turned
    obtain rfl : byte = byte' := Option.some.inj (here.symm.trans here')
    obtain rfl : stride = stride' := Except.ok.inj (found.symm.trans found')
    rw [if_pos rewrites, ← stop] at copied
    -- What is copied goes up to the new index, which is behind all that was copied before.
    rcases follows.cuts with same | ⟨-, cuts⟩
    · have forward := follows.forward
      have ordered := sound.ordered
      omega
    · exact stop ▸ cuts
  rest := ⟨Nat.le_trans sound.ordered sound.inside, sound.boundary,
    String.Pos.Raw.isValid_rawEndPos⟩

/-- The turns end at the end of the text, with the bytes of the translated one made, where every
depth can be counted. Pieces have been copied if a placeholder is rewritten. -/
theorem finish_start (counts : style.counts 0 .plain text.toList = true) :
    ∃ last, style.finish text .start = .ok last ∧ last.Sound text ∧
      last.index = text.utf8ByteSize ∧ last.emitted text = textBytes (style.translate text) ∧
      (last.written.isSome = true ↔ style.changes text = true) := by
  have begins : ByteScan.start.Between text [] text.toList := ⟨rfl, rfl⟩
  obtain ⟨last, finished, sound, ends, reads⟩ :=
    (style.finish_reads (ByteScan.sound_start text) begins).1 counts
  refine ⟨last, finished, sound, ends, ?_, ?_⟩
  · rw [textBytes_eq, translate, String.toList_ofList, reads.emitted]
    rfl
  · rw [reads.begun, changes, rewrites_iff]
    simp [ByteScan.start]

/-- A scan ends with the bytes of the translated text if a placeholder is rewritten, unless the
depth of comments cannot be counted, where it breaks off. -/
theorem scan_eq : style.scan text =
    if style.counts 0 .plain text.toList then
      .ok (if style.changes text then some (textBytes (style.translate text)) else none)
    else .error (.badDepth (UInt32.size - 1)) := by
  split
  · rename_i counts
    obtain ⟨last, finished, sound, ends, made, changed⟩ := style.finish_start counts
    simp only [scan, finished, bind, Except.bind, pure, Except.pure]
    cases written : last.written with
    | none =>
      -- No placeholder was rewritten, and the text is the translated one.
      have same : ¬style.changes text = true := by simp [← changed, written]
      rw [if_neg same]
    | some bytes =>
      -- The piece that is left to be copied is what has been read since the last one.
      have other : style.changes text = true := by simp [← changed, written]
      have copied : textBetween text last.copied text.utf8ByteSize = _ :=
        if_pos ⟨Nat.le_trans sound.ordered sound.inside, sound.boundary,
          String.Pos.Raw.isValid_rawEndPos⟩
      rw [if_pos other, ← made, ByteScan.emitted, written, ends]
      simp [copied]
  · rename_i not
    have begins : ByteScan.start.Between text [] text.toList := ⟨rfl, rfl⟩
    have breaks := (style.finish_reads (ByteScan.sound_start text) begins).2
      (Bool.eq_false_iff.mpr not)
    simp [scan, breaks, bind, Except.bind]

/-- A text with a token that is too deep has two bytes for each comment that cannot be counted. -/
theorem Splits.le_utf8ByteSize {style : PlaceholderStyle} {tokens : List Token}
    (splits : style.Splits text.toList tokens) {token : Token} (mem : token ∈ tokens)
    (deep : token.TooDeep) :
    2 * UInt32.size ≤ text.utf8ByteSize :=
  calc 2 * UInt32.size
      ≤ (token.spell style.other.marker).length := deep.le_length _
    _ ≤ (tokens.flatMap (Token.spell style.other.marker)).length :=
      (List.infix_of_mem_flatten (List.mem_map_of_mem mem)).length_le
    _ = text.toList.length := by rw [← splits.eq_flatMap]
    _ ≤ (charBytes text.toList).length := length_le_length_charBytes _
    _ = text.utf8ByteSize := by rw [← textBytes_eq, length_textBytes]

/-- In a text that is short enough the depth of comments can be counted. -/
theorem counts_of_short (short : text.utf8ByteSize < 2 * UInt32.size) :
    style.counts 0 .plain text.toList = true := by
  obtain ⟨tokens, splits⟩ := style.exists_splits text.toList
  rw [splits.counts_iff]
  rintro ⟨token, mem, deep⟩
  exact Nat.not_le.mpr short (splits.le_utf8ByteSize mem deep)

/-- Where no placeholder is rewritten, the text is the translated one already. -/
theorem getD_translate :
    (if style.changes text then some (textBytes (style.translate text)) else none).getD
      (textBytes text) = textBytes (style.translate text) := by
  split
  · rfl
  · rename_i same
    rw [changes_iff, not_not] at same
    rw [Option.getD_none, same]

/-- A translated text has as many bytes as the text. -/
theorem length_textBytes_translate (short : text.utf8ByteSize < 2 * UInt32.size) :
    (textBytes (style.translate text)).length = text.utf8ByteSize := by
  obtain ⟨last, -, sound, ends, made, -⟩ := style.finish_start (style.counts_of_short short)
  rw [← made, sound.length_emitted, ends]

end PlaceholderStyle

/-- The bytes of a text are valid. -/
theorem isValidUTF8_textBytes (text : String) : (textBytes text).toByteArray.IsValidUTF8 := by
  rw [textBytes_eq]
  exact ⟨text.toList, rfl⟩

/-- A scan of a text of fewer than `8589934592` bytes never breaks off. It is safe between any two
turns, and ends with the bytes of the translated text, or with none where the text stays as it is.
In either case they are as many as before and valid. -/
theorem scan_safe {text : String} (short : text.utf8ByteSize < 2 * UInt32.size)
    (style : PlaceholderStyle) :
    (∀ scan, style.Reaches text scan → style.Safe text scan) ∧
      ∃ out, style.scan text = .ok out ∧ out.isSome = style.changes text ∧
        out.getD (textBytes text) = textBytes (style.translate text) ∧
        (out.getD (textBytes text)).length = text.utf8ByteSize ∧
        (out.getD (textBytes text)).toByteArray.IsValidUTF8 := by
  have scanned := style.scan_eq.trans (if_pos (style.counts_of_short short))
  refine ⟨fun scan reaches => style.safe_of_sound (reaches.sound short) short, _, scanned, ?_⟩
  rw [style.getD_translate, style.length_textBytes_translate short]
  refine ⟨?_, rfl, rfl, isValidUTF8_textBytes _⟩
  cases style.changes text <;> rfl

/-- A placeholder between two characters of several bytes is rewritten, and one in a comment that
never ends is not. -/
theorem scan_safe_endless_comment :
    let text := "ü?1é /* ü /* ?2"
    text.utf8ByteSize < 2 * UInt32.size ∧
      PlaceholderStyle.postgres.scan text = .ok (some (textBytes "ü$1é /* ü /* ?2")) := by
  intro text
  have short : text.utf8ByteSize < 2 * UInt32.size := by decide
  obtain ⟨-, out, scanned, some, made, -⟩ := scan_safe short .postgres
  have other : PlaceholderStyle.postgres.changes text = true := by decide
  have translated : PlaceholderStyle.postgres.translate text = "ü$1é /* ü /* ?2" := by decide
  obtain ⟨bytes, rfl⟩ := Option.isSome_iff_exists.mp (some.trans other)
  rw [Option.getD_some, translated] at made
  exact ⟨short, made ▸ scanned⟩

end Querent
