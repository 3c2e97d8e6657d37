import Querent.Placeholder.Scanner
import Querent.Text.Bytes

/-! Translating a statement by an index into its bytes, with pieces of the text copied over. -/

namespace Querent

/-- What would break off a scan. -/
inductive ScanFault
  /-- No byte is at the index. -/
  | noByte (index : Nat)
  /-- The text has no piece between two indices. -/
  | noPiece (start stop : Nat)
  /-- The depth of comments cannot be counted on from here. -/
  | badDepth (depth : Nat)
deriving DecidableEq, Repr

/-- How far a scan has come. -/
structure ByteScan where
  /-- The index of the byte that is read next. -/
  index : Nat
  /-- The index up to which the text is copied. -/
  copied : Nat
  /-- What the next byte belongs to. -/
  context : Context
  /-- The bytes written, once a placeholder has been rewritten. -/
  written : Option (List UInt8)
deriving DecidableEq, Repr

/-- The scan of which nothing is done. -/
def ByteScan.start : ByteScan :=
  ⟨0, 0, .plain, none⟩

/-- What is done at one byte. -/
structure Stride where
  /-- The index of the byte that is read after it. -/
  stop : Nat
  /-- What that byte belongs to. -/
  context : Context
  /-- Whether the byte marks a placeholder, whose number goes up to there. -/
  rewrites : Bool
deriving DecidableEq, Repr

/-- Whether two characters of one byte each stand at an index. -/
def pairAt (bytes : List UInt8) (index : Nat) (first second : Char) : Bool :=
  bytes[index]? == some first.toUInt8 && bytes[index + 1]? == some second.toUInt8

/-- The index behind the digits that begin at an index. -/
def digitsEnd? (bytes : List UInt8) (start : Nat) : Option Nat :=
  let digits := (bytes.drop start).takeWhile fun byte => (Char.ofUInt8 byte).isDigit
  if 0 < digits.length then some (start + digits.length) else none

/-- The tag that is opened by the dollar sign at an index, and the index of the one behind it. -/
def tagAt? (bytes : List UInt8) (start : Nat) : Option (List Char × Nat) :=
  let body := bytes.drop (start + 1)
  let tag := body.takeWhile fun byte => isTagChar (Char.ofUInt8 byte)
  if body[tag.length]? = some '$'.toUInt8 then
    (String.fromUTF8? tag.toByteArray).map fun text => (text.toList, start + 1 + tag.length)
  else none

/-- Whether a tag and a dollar sign stand behind an index. -/
def closesAt (bytes : List UInt8) (index : Nat) (tag : List Char) : Bool :=
  let stop := index + 1 + (charBytes tag).length
  bytesBetween bytes (index + 1) stop == charBytes tag && bytes[stop]? == some '$'.toUInt8

/-- The stride in the statement's own text. -/
def PlaceholderStyle.plainStride (style : PlaceholderStyle) (bytes : List UInt8) (index : Nat)
    (byte : UInt8) : Stride :=
  if byte = '\''.toUInt8 then ⟨index + 1, .literal, false⟩
  else if byte = '"'.toUInt8 then ⟨index + 1, .quotedName, false⟩
  else if pairAt bytes index '-' '-' then ⟨index + 2, .lineComment, false⟩
  else if pairAt bytes index '/' '*' then ⟨index + 2, .blockComment 1, false⟩
  -- A tag is looked for before a placeholder, since a dollar sign may begin either.
  else match if byte = '$'.toUInt8 then tagAt? bytes index else none with
    | some (tag, close) => ⟨close + 1, .dollarBody tag, false⟩
    | none =>
      match if byte = style.other.marker.toUInt8 then digitsEnd? bytes (index + 1) else none with
      | some stop => ⟨stop, .plain, true⟩
      | none => ⟨index + 1, .plain, false⟩

/-- The stride between two quotes of a kind. -/
def quotedStride (quote : Char) (inside : Context) (bytes : List UInt8) (index : Nat)
    (byte : UInt8) : Stride :=
  if byte = quote.toUInt8 then
    if bytes[index + 1]? = some quote.toUInt8 then ⟨index + 2, inside, false⟩
    else ⟨index + 1, .plain, false⟩
  else ⟨index + 1, inside, false⟩

/-- The stride inside comments, whose depth is counted in thirty-two bits. -/
def commentStride (depth : Nat) (bytes : List UInt8) (index : Nat) : Except ScanFault Stride :=
  if pairAt bytes index '/' '*' then
    if depth + 1 < UInt32.size then .ok ⟨index + 2, .blockComment (depth + 1), false⟩
    else .error (.badDepth depth)
  else if pairAt bytes index '*' '/' then
    -- With no comment open there would be no depth to go back to.
    if depth = 0 then .error (.badDepth depth)
    else .ok ⟨index + 2, if depth = 1 then .plain else .blockComment (depth - 1), false⟩
  else .ok ⟨index + 1, .blockComment depth, false⟩

/-- The stride in a context. -/
def PlaceholderStyle.stride (style : PlaceholderStyle) (bytes : List UInt8) (index : Nat)
    (byte : UInt8) (context : Context) : Except ScanFault Stride :=
  match context with
  | .plain => .ok (style.plainStride bytes index byte)
  | .literal => .ok (quotedStride '\'' .literal bytes index byte)
  | .quotedName => .ok (quotedStride '"' .quotedName bytes index byte)
  | .lineComment =>
    .ok ⟨index + 1, if byte = '\n'.toUInt8 then .plain else .lineComment, false⟩
  | .blockComment depth => commentStride depth bytes index
  | .dollarBody tag =>
    if byte = '$'.toUInt8 ∧ closesAt bytes index tag then
      .ok ⟨index + (charBytes tag).length + 2, .plain, false⟩
    else .ok ⟨index + 1, .dollarBody tag, false⟩

/-- The piece of a text from one index to another, which no character may straddle. -/
def textBetween (text : String) (start stop : Nat) : Except ScanFault (List UInt8) :=
  if start ≤ stop ∧ IsBoundary text start ∧ IsBoundary text stop then
    .ok (bytesBetween (textBytes text) start stop)
  else .error (.noPiece start stop)

/-- The scan after one stride, which copies what stands before a placeholder and its number. -/
def PlaceholderStyle.turn (style : PlaceholderStyle) (text : String) (scan : ByteScan) :
    Except ScanFault ByteScan := do
  match (textBytes text)[scan.index]? with
  | none => .error (.noByte scan.index)
  | some byte =>
    let stride ← style.stride (textBytes text) scan.index byte scan.context
    if stride.rewrites then
      -- The text since the last placeholder, the mark and the number are written at once.
      let before ← textBetween text scan.copied scan.index
      let number ← textBetween text (scan.index + 1) stride.stop
      let written := scan.written.getD [] ++ before ++ charBytes [style.marker] ++ number
      return ⟨stride.stop, stride.stop, stride.context, some written⟩
    else return ⟨stride.stop, scan.copied, stride.context, scan.written⟩

/-- Digits end behind the index at which they begin. -/
theorem lt_of_digitsEnd? {bytes : List UInt8} {start stop : Nat}
    (found : digitsEnd? bytes start = some stop) : start < stop := by
  simp only [digitsEnd?, Option.ite_none_right_eq_some, Option.some.injEq] at found
  omega

/-- The dollar sign behind a tag is not the one that opens it. -/
theorem lt_of_tagAt? {bytes : List UInt8} {start close : Nat} {tag : List Char}
    (found : tagAt? bytes start = some (tag, close)) : start < close := by
  simp only [tagAt?, Option.ite_none_right_eq_some, Option.map_eq_some_iff, Prod.mk.injEq] at found
  obtain ⟨-, _, -, -, rfl⟩ := found
  omega

/-- The stride in the statement's own text leads forward. -/
theorem PlaceholderStyle.lt_stop_plainStride (style : PlaceholderStyle) (bytes : List UInt8)
    (index : Nat) (byte : UInt8) : index < (style.plainStride bytes index byte).stop := by
  -- Only a tag and a number are passed over in strides of no fixed length.
  grind [plainStride, → lt_of_tagAt?, → lt_of_digitsEnd?]

/-- Every stride leads forward. -/
theorem PlaceholderStyle.lt_of_stride {style : PlaceholderStyle} {bytes : List UInt8}
    {index : Nat} {byte : UInt8} {context : Context} {stride : Stride}
    (found : style.stride bytes index byte context = .ok stride) : index < stride.stop := by
  cases context with
  | plain =>
    obtain rfl : style.plainStride bytes index byte = stride := Except.ok.inj found
    exact style.lt_stop_plainStride bytes index byte
  | literal => grind [PlaceholderStyle.stride, quotedStride]
  | quotedName => grind [PlaceholderStyle.stride, quotedStride]
  | lineComment => grind [PlaceholderStyle.stride]
  | blockComment depth => grind [PlaceholderStyle.stride, commentStride]
  | dollarBody tag => grind [PlaceholderStyle.stride]

/-- A turn is made by the stride at its byte, which tells where it leads and what is copied. -/
theorem PlaceholderStyle.exists_stride_of_turn {style : PlaceholderStyle} {text : String}
    {scan next : ByteScan} (turned : style.turn text scan = .ok next) :
    ∃ byte stride, (textBytes text)[scan.index]? = some byte ∧
      style.stride (textBytes text) scan.index byte scan.context = .ok stride ∧
      next.index = stride.stop ∧
      next.copied = if stride.rewrites then stride.stop else scan.copied := by
  rw [turn] at turned
  cases here : (textBytes text)[scan.index]? with
  | none => simp [here] at turned
  | some byte =>
    cases found : style.stride (textBytes text) scan.index byte scan.context with
    | error fault => simp [here, found, bind, Except.bind] at turned
    | ok stride =>
      refine ⟨byte, stride, rfl, found, ?_⟩
      simp only [here, found, bind, Except.bind, pure, Except.pure] at turned
      -- Copying a piece may fail, but where it does not the next scan is the one of the stride.
      split at turned
      · cases before : textBetween text scan.copied scan.index with
        | error fault => simp [before] at turned
        | ok piece =>
          cases number : textBetween text (scan.index + 1) stride.stop with
          | error fault => simp [before, number] at turned
          | ok digits =>
            simp only [before, number, Except.ok.injEq] at turned
            simp_all [← turned]
      · simp_all [← Except.ok.inj turned]

/-- Every turn leads forward. -/
theorem PlaceholderStyle.lt_of_turn {style : PlaceholderStyle} {text : String}
    {scan next : ByteScan} (turned : style.turn text scan = .ok next) :
    scan.index < next.index := by
  obtain ⟨byte, stride, -, found, stop, -⟩ := exists_stride_of_turn turned
  exact stop ▸ lt_of_stride found

/-- The scan after all turns that are left. -/
def PlaceholderStyle.finish (style : PlaceholderStyle) (text : String) (scan : ByteScan) :
    Except ScanFault ByteScan :=
  if scan.index < text.utf8ByteSize then
    match _turned : style.turn text scan with
    | .error fault => .error fault
    | .ok next => style.finish text next
  else .ok scan
termination_by text.utf8ByteSize - scan.index
decreasing_by
  have forward := PlaceholderStyle.lt_of_turn ‹_›
  omega

/-- The bytes of a translated statement, unless no placeholder is rewritten. -/
def PlaceholderStyle.scan (style : PlaceholderStyle) (text : String) :
    Except ScanFault (Option (List UInt8)) := do
  let last ← style.finish text .start
  match last.written with
  | none => return none
  | some written =>
    let rest ← textBetween text last.copied text.utf8ByteSize
    return some (written ++ rest)

end Querent
