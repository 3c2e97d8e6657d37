import Querent.Time.Timestamp
import Querent.Text.Blank
import Querent.Json.Numeral

/-! Timestamps read from text, with blanks allowed around the numbers and the marks. -/

namespace Querent

/-- The number that at least one and at most some leading digits spell, and what follows. -/
def readDecimal (width : Nat) (text : List Char) : Option (Nat × List Char) :=
  let digits := (text.take width).takeWhile Char.isDigit
  if digits.isEmpty then none else some (digitsValue digits, text.drop digits.length)

/-- A number of at most two digits after blanks, and what follows. -/
def readPart (text : List Char) : Option (Nat × List Char) :=
  readDecimal 2 (trimFront text)

/-- A year after blanks: any number of digits behind a sign, else at most four. -/
def readYear (text : List Char) : Option (Int × List Char) :=
  match trimFront text with
  | '-' :: rest => (readDecimal rest.length rest).map fun (year, rest) => (-(year : Int), rest)
  | '+' :: rest => (readDecimal rest.length rest).map fun (year, rest) => ((year : Int), rest)
  | rest => (readDecimal 4 rest).map fun (year, rest) => ((year : Int), rest)

/-- What follows a mark that blanks may precede. -/
def readMark (mark : Char) (text : List Char) : Option (List Char) :=
  match trimFront text with
  | c :: rest => if c = mark then some rest else none
  | [] => none

/-- Nanoseconds behind a point, of which digits past the ninth are dropped, and what follows. -/
def readFractionOfSecond : List Char → Option (Nat × List Char)
  | '.' :: rest =>
    let digits := (rest.take 9).takeWhile Char.isDigit
    if digits.isEmpty then none
    else some (digitsValue digits * Nat.pow 10 (9 - digits.length), rest.dropWhile Char.isDigit)
  | rest => some (0, rest)

/-- A moment that fills a whole text; second 60 is a leap second. -/
def readMoment (text : List Char) : Option Moment := do
  let (year, rest) ← readYear text
  let rest ← readMark '-' rest
  let (month, rest) ← readPart rest
  let rest ← readMark '-' rest
  let (day, rest) ← readPart rest
  let rest ← readMark 'T' rest
  let (hour, rest) ← readPart rest
  let rest ← readMark ':' rest
  let (minute, rest) ← readPart rest
  let rest ← readMark ':' rest
  let (second, rest) ← readPart rest
  let (nanosecond, rest) ← readFractionOfSecond rest
  if (trimFront rest).isEmpty then
    if second = 60 then some ⟨year, month, day, hour, minute, 59, nanosecond + 1000000000⟩
    else some ⟨year, month, day, hour, minute, second, nanosecond⟩
  else none

/-- A timestamp that fills a whole text. -/
def Timestamp.parse? (text : String) : Option Timestamp :=
  (readMoment text.toList).bind Timestamp.ofMoment?

end Querent
