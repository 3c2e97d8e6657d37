import Querent.Json.Document

/-! The number that a numeral stands for. -/

namespace Querent

/-- What a JSON number is read as: an integer of 64 bits, or else a binary64 number. -/
inductive Quantity where
  | whole (number : Whole)
  | float (number : Binary64)
deriving DecidableEq, Repr

/-- The value of a decimal digit. -/
def digitValue (c : Char) : Nat := c.toNat - '0'.toNat

/-- Digits gathered into a word, and the power of ten that scales it. -/
structure Gathered where
  word : Nat
  power : Int
deriving DecidableEq, Repr

/-- Whether one more digit keeps the word below 2^64. -/
def Gathered.fits (gathered : Gathered) (digit : Char) : Bool :=
  gathered.word * 10 + digitValue digit < UInt64.size

/-- Digits before the point: once one does not fit, it and all after it count as powers of ten. -/
def Gathered.whole : Gathered → List Char → Gathered
  | gathered, [] => gathered
  | gathered, digit :: rest =>
    if gathered.fits digit then
      Gathered.whole ⟨gathered.word * 10 + digitValue digit, gathered.power⟩ rest
    else ⟨gathered.word, gathered.power + (rest.length + 1)⟩

/-- Digits after the point: once one does not fit, it and all after it are dropped. -/
def Gathered.fraction : Gathered → List Char → Gathered
  | gathered, [] => gathered
  | gathered, digit :: rest =>
    if gathered.fits digit then
      Gathered.fraction ⟨gathered.word * 10 + digitValue digit, gathered.power - 1⟩ rest
    else gathered

/-- The number that digits spell. -/
def digitsValue (digits : List Char) : Nat :=
  digits.foldl (fun value digit => value * 10 + digitValue digit) 0

/-- Divides by 10^308 until the rest of a negative power is in reach or nothing is left. -/
def scaleDown : Nat → Binary64 → Nat → Binary64 × Nat
  | 0, x, down => (x, down)
  | turns + 1, x, down =>
    if down ≤ 308 || x.isZero then (x, down)
    else scaleDown turns (x.dividedBy (.ofNat (Nat.pow 10 308))) (down - 308)

/-- The scaled word as a binary64 number: word and power are rounded, and their product again. -/
def Gathered.magnitude? (gathered : Gathered) : Option Binary64 :=
  let x := Binary64.ofNat gathered.word
  if 0 ≤ gathered.power then
    if 308 < gathered.power then if x.isZero then some x else none
    else
      let product := x.times (.ofNat (Nat.pow 10 gathered.power.toNat))
      if product.isFinite then some product else none
  else
    let down := (-gathered.power).toNat
    -- A word is below 10^20, so it is zero after three divisions at the latest.
    let (x, down) := scaleDown 3 x down
    some (if x.isZero then x else x.dividedBy (.ofNat (Nat.pow 10 down)))

/-- A magnitude with the sign of a numeral. -/
def Numeral.signed (numeral : Numeral) (magnitude : Binary64) : Quantity :=
  .float (if numeral.negative then magnitude.negate else magnitude)

/-- The number that a numeral stands for, or none beyond the greatest binary64 number. -/
def Numeral.quantity? (numeral : Numeral) : Option Quantity :=
  let whole := Gathered.whole ⟨0, 0⟩ numeral.whole
  match numeral.fraction, numeral.exponent with
  | none, none =>
    let value : Int := if numeral.negative then -whole.word else whole.word
    if range : whole.power = 0 ∧ (-9223372036854775808 ≤ value ∧ value < 18446744073709551616) then
      -- A zero with a sign is a floating-point number.
      if numeral.negative && whole.word == 0 then some (numeral.signed (.ofNat 0))
      else some (.whole ⟨value, range.2⟩)
    else whole.magnitude?.map numeral.signed
  | fraction, none => ((whole.fraction (fraction.getD [])).magnitude?).map numeral.signed
  | fraction, some (negative, digits) =>
    let gathered := whole.fraction (fraction.getD [])
    let power := digitsValue digits
    -- An exponent of 2^31 or more leaves the range at once.
    if 2147483648 ≤ power then
      if gathered.word = 0 || negative then some (numeral.signed (.ofNat 0)) else none
    else
      let power : Int := if negative then -power else power
      (Gathered.magnitude? ⟨gathered.word, gathered.power + power⟩).map numeral.signed

end Querent
