/-! Bytes read as UTF-8, with the same text for each longest run of bytes that is no character. -/

namespace Querent

/-- A character of which some bytes have been read. -/
structure OpenChar where
  /-- Value of the bits read so far. -/
  code : Nat
  /-- Bytes still owed, less the next one. -/
  after : Nat
  /-- Least value the next byte may have. -/
  least : UInt8
  /-- Greatest value the next byte may have. -/
  greatest : UInt8

/-- What a first byte outside ASCII opens, if it opens a character. -/
def openChar? (byte : UInt8) : Option OpenChar :=
  let code := byte.toNat
  if byte < 0xC2 then none
  else if byte < 0xE0 then some ⟨code - 0xC0, 0, 0x80, 0xBF⟩
  -- The second byte is narrowed where overlong forms, surrogates or codes past the last one begin.
  else if byte < 0xF0 then
    some ⟨code - 0xE0, 1, if byte == 0xE0 then 0xA0 else 0x80, if byte == 0xED then 0x9F else 0xBF⟩
  else if byte < 0xF5 then
    some ⟨code - 0xF0, 2, if byte == 0xF0 then 0x90 else 0x80, if byte == 0xF4 then 0x8F else 0xBF⟩
  else none

section

variable (stray : List Char)

/-- Characters finished by a byte that follows no open character, and what it opens. -/
def beginChar (byte : UInt8) : List Char × Option OpenChar :=
  if byte < 0x80 then ([Char.ofNat byte.toNat], none)
  else match openChar? byte with
    | some opened => ([], some opened)
    | none => (stray, none)

/-- Characters finished by one byte, and what is open after it. -/
def decodeByte (pending : Option OpenChar) (byte : UInt8) : List Char × Option OpenChar :=
  match pending with
  | none => beginChar stray byte
  | some opened =>
    if opened.least ≤ byte && byte ≤ opened.greatest then
      let code := opened.code * 64 + (byte.toNat - 0x80)
      match opened.after with
      | 0 => ([Char.ofNat code], none)
      | after + 1 => ([], some ⟨code, after, 0x80, 0xBF⟩)
    else
      -- The bytes read are given up, and this byte starts over.
      let (finished, opened) := beginChar stray byte
      (stray ++ finished, opened)

/-- Characters of the bytes that follow a possibly open character. -/
def decodeFrom (pending : Option OpenChar) : List UInt8 → List Char
  | [] => if pending.isSome then stray else []
  | byte :: rest =>
    let (finished, opened) := decodeByte stray pending byte
    finished ++ decodeFrom opened rest

/-- The text of some bytes, with a text of its own for each run that is no character. -/
def decodeBytes (bytes : List UInt8) : String :=
  String.ofList (decodeFrom stray none bytes)

end

/-- The text of some bytes, with one replacement character for each run that is no character. -/
def decodeUtf8 (bytes : List UInt8) : String :=
  decodeBytes ['\uFFFD'] bytes

end Querent
