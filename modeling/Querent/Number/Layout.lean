import Querent.Number.Shortest

/-! How decimal digits are laid out as text. -/

namespace Querent

/-- What a format decides about the text of a binary64 number. -/
structure FloatLayout where
  /-- Which of two equally near shortest decimals is written. -/
  tie : Tie
  /-- Whether a power of the leading digit is written without an exponent. -/
  positional : Int → Bool
  /-- What follows a whole number. -/
  wholeEnd : String
  nan : String
  infinite : String
  minusInfinite : String

/-- A run of zeros. -/
def zeros (count : Nat) : String :=
  String.ofList (List.replicate count '0')

/-- Digits before and after a point that stands behind the leading digits. -/
def pointed (digits : List Char) (before : Nat) (wholeEnd : String) : String :=
  if digits.length ≤ before then
    String.ofList digits ++ zeros (before - digits.length) ++ wholeEnd
  else String.ofList (digits.take before) ++ "." ++ String.ofList (digits.drop before)

/-- A decimal as text, the leading digit standing for the given power of ten. -/
def FloatLayout.place (layout : FloatLayout) (digits : List Char) (power : Int) : String :=
  if layout.positional power then
    if power < 0 then "0." ++ zeros (-power - 1).toNat ++ String.ofList digits
    else pointed digits (power + 1).toNat layout.wholeEnd
  else
    let sign := if power < 0 then "e-" else "e+"
    pointed digits 1 "" ++ sign ++ toString power.natAbs

/-- The text of a binary64 number. -/
def FloatLayout.text (layout : FloatLayout) (x : Binary64) : String :=
  if x.isNaN then layout.nan
  else if !x.isFinite then if x.isNegative then layout.minusInfinite else layout.infinite
  else
    let sign := if x.isNegative then "-" else ""
    if x.isZero then sign ++ layout.place ['0'] 0
    else
      let decimal := x.shortest layout.tie
      let digits := Nat.toDigits 10 decimal.digits
      sign ++ layout.place digits (decimal.exponent + digits.length - 1)

/-- JSON numbers keep a point, and have an exponent below 10^-5 and from 10^16 on. -/
def jsonFloat : FloatLayout where
  tie := .toEven
  positional power := -5 ≤ power && power < 16
  wholeEnd := ".0"
  nan := "null"
  infinite := "null"
  minusInfinite := "null"

/-- Numbers in SQL text never have an exponent, and whole ones have no point. -/
def sqlFloat : FloatLayout where
  tie := .upward
  positional _ := true
  wholeEnd := ""
  nan := "NaN"
  infinite := "inf"
  minusInfinite := "-inf"

end Querent
