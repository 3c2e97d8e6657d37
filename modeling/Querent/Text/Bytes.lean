/-! The bytes of a text in UTF-8, and where the text may be cut between them. -/

namespace Querent

/-- The bytes of some characters, one character after another. -/
def charBytes (chars : List Char) : List UInt8 :=
  chars.flatMap String.utf8EncodeChar

/-- The bytes of a text. -/
def textBytes (text : String) : List UInt8 :=
  text.toUTF8.data.toList

/-- Whether no character of a text has bytes on both sides of an index. -/
def IsBoundary (text : String) (index : Nat) : Prop :=
  (⟨index⟩ : String.Pos.Raw).IsValid text

instance (text : String) (index : Nat) : Decidable (IsBoundary text index) :=
  inferInstanceAs (Decidable ((⟨index⟩ : String.Pos.Raw).IsValid text))

/-- The piece of some bytes from one index to another. -/
def bytesBetween (bytes : List UInt8) (start stop : Nat) : List UInt8 :=
  (bytes.drop start).take (stop - start)

end Querent
