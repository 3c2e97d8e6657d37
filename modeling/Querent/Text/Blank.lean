/-! Blank characters are those with the Unicode property White_Space, and trimming drops them. -/

namespace Querent

/-- First and last code points of the runs of characters with the property White_Space. -/
def blankRuns : List (Nat × Nat) :=
  [(0x9, 0xD), (0x20, 0x20), (0x85, 0x85), (0xA0, 0xA0), (0x1680, 0x1680), (0x2000, 0x200A),
    (0x2028, 0x2029), (0x202F, 0x202F), (0x205F, 0x205F), (0x3000, 0x3000)]

/-- Whether a character separates words. -/
def isBlank (c : Char) : Bool :=
  blankRuns.any fun run => run.1 ≤ c.toNat && c.toNat ≤ run.2

/-- Characters left once the blanks at the front are dropped. -/
def trimFront (text : List Char) : List Char :=
  text.dropWhile isBlank

/-- Characters left once the blanks at both ends are dropped. -/
def trimEnds (text : List Char) : List Char :=
  (trimFront (trimFront text).reverse).reverse

/-- A text without the blanks at its ends. -/
def trim (text : String) : String :=
  String.ofList (trimEnds text.toList)

/-- A text that holds nothing but blanks. -/
def isBlankText (text : String) : Bool :=
  (trim text).isEmpty

end Querent
