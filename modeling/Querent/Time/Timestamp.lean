/-! Dates with a time of day, to the nanosecond and with leap seconds. -/

namespace Querent

/-- A date and a time of day, possibly none that a calendar has. -/
structure Moment where
  year : Int
  month : Nat
  day : Nat
  hour : Nat
  minute : Nat
  second : Nat
  /-- From 10^9 on, the second after this one is a leap second that has begun. -/
  nanosecond : Nat
deriving DecidableEq, Repr

/-- Whether a year has a day more. -/
def isLeapYear (year : Int) : Bool :=
  year % 4 == 0 && (year % 100 != 0 || year % 400 == 0)

/-- Days of a month. -/
def daysIn (year : Int) (month : Nat) : Nat :=
  if month = 2 then if isLeapYear year then 29 else 28
  else if month = 4 ∨ month = 6 ∨ month = 9 ∨ month = 11 then 30
  else 31

/-- Whether a moment is one of a proleptic calendar of 262143 years before and after year 0. -/
structure Moment.Real (moment : Moment) : Prop where
  year : -262143 ≤ moment.year ∧ moment.year ≤ 262142
  month : 1 ≤ moment.month ∧ moment.month ≤ 12
  day : 1 ≤ moment.day ∧ moment.day ≤ daysIn moment.year moment.month
  hour : moment.hour < 24
  minute : moment.minute < 60
  second : moment.second < 60
  nanosecond : moment.nanosecond < 2000000000

/-- Being real is decided condition by condition. -/
instance (moment : Moment) : Decidable moment.Real :=
  decidable_of_iff
    ((-262143 ≤ moment.year ∧ moment.year ≤ 262142) ∧ (1 ≤ moment.month ∧ moment.month ≤ 12) ∧
      (1 ≤ moment.day ∧ moment.day ≤ daysIn moment.year moment.month) ∧ moment.hour < 24 ∧
      moment.minute < 60 ∧ moment.second < 60 ∧ moment.nanosecond < 2000000000)
    ⟨fun ⟨year, month, day, hour, minute, second, nanosecond⟩ =>
        ⟨year, month, day, hour, minute, second, nanosecond⟩,
      fun real => ⟨real.year, real.month, real.day, real.hour, real.minute, real.second,
        real.nanosecond⟩⟩

/-- Whether a moment is in no leap second, or in one that follows second 59. -/
def Moment.Regular (moment : Moment) : Prop :=
  1000000000 ≤ moment.nanosecond → moment.second = 59

/-- The nanosecond and the second are compared. -/
instance (moment : Moment) : Decidable moment.Regular :=
  inferInstanceAs (Decidable (_ → _))

/-- A moment that the calendar has; it may be in a leap second that follows any second. -/
structure Timestamp where
  moment : Moment
  real : moment.Real
deriving DecidableEq, Repr

/-- The timestamp of a moment, if the calendar has it and a leap second follows second 59. -/
def Timestamp.ofMoment? (moment : Moment) : Option Timestamp :=
  if real : moment.Real ∧ moment.Regular then some ⟨moment, real.1⟩ else none

/-- Decimal digits of a number, with zeros in front up to a width. -/
def padded (width n : Nat) : List Char :=
  let digits := Nat.toDigits 10 n
  List.replicate (width - digits.length) '0' ++ digits

/-- A year by four digits, or from five on and before year 0 by a sign and at least four. -/
def yearText (year : Int) : List Char :=
  if year < 0 then '-' :: padded 4 year.natAbs
  else if 9999 < year then '+' :: padded 4 year.natAbs
  else padded 4 year.natAbs

/-- A fraction of a second by three, six or nine digits, the fewest that are exact. -/
def fractionText (nanosecond : Nat) : List Char :=
  if nanosecond = 0 then []
  else if nanosecond % 1000000 = 0 then '.' :: padded 3 (nanosecond / 1000000)
  else if nanosecond % 1000 = 0 then '.' :: padded 6 (nanosecond / 1000)
  else '.' :: padded 9 nanosecond

/-- The date and the time of day with a mark between them; a leap second is the next second, which
is second 60 behind second 59. -/
def Moment.print (mark : Char) (moment : Moment) : List Char :=
  yearText moment.year ++ '-' :: padded 2 moment.month ++ '-' :: padded 2 moment.day ++
    mark :: padded 2 moment.hour ++ ':' :: padded 2 moment.minute ++
    ':' :: padded 2 (moment.second + moment.nanosecond / 1000000000) ++
    fractionText (moment.nanosecond % 1000000000)

/-- The text of a timestamp in SQL, with a space between date and time. -/
def Timestamp.sqlText (timestamp : Timestamp) : String :=
  String.ofList (timestamp.moment.print ' ')

/-- The text of a timestamp in stored data, with a T between date and time. -/
def Timestamp.isoText (timestamp : Timestamp) : String :=
  String.ofList (timestamp.moment.print 'T')

end Querent
