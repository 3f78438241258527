/-!
# The proleptic Gregorian calendar

Days are counted from 1 January 1970. Inside, a year starts on 1 March, so that the leap day is its
last day and the months before any day of the year have lengths that do not depend on the year.
-/

namespace BuildYard

/-- A calendar date; the year may be zero or negative. -/
structure Date where
  year : Int
  month : Nat
  day : Nat
  deriving DecidableEq, Repr

namespace Date

/-- Is this a leap year? -/
def isLeapYear (year : Int) : Bool := year % 4 == 0 && (year % 100 != 0 || year % 400 == 0)

/-- The number of days of a month. -/
def daysInMonth (year : Int) (month : Nat) : Nat :=
  if month == 2 then if isLeapYear year then 29 else 28
  else if month == 4 || month == 6 || month == 9 || month == 11 then 30
  else 31

/-- Does the calendar have this date? -/
def isValid (d : Date) : Bool :=
  1 ≤ d.month && d.month ≤ 12 && 1 ≤ d.day && d.day ≤ daysInMonth d.year d.month

/-- Days from 1 March of year 0 to 1 March of another year. -/
def daysToMarch (year : Int) : Int := 365 * year + year / 4 - year / 100 + year / 400

/-- Days from 1 March to the first day of the month that is `index` months later. -/
def daysToMonth (index : Nat) : Nat := (153 * index + 2) / 5

/-- Days from 1 March of year 0 to 1 January 1970. -/
def daysToEpoch : Int := 719468

/-- The number of a date, counted from 1 January 1970. -/
def toDay (d : Date) : Int :=
  if d.month ≤ 2 then
    daysToMarch (d.year - 1) + daysToMonth (d.month + 9) + (d.day - 1 : Int) - daysToEpoch
  else daysToMarch d.year + daysToMonth (d.month - 3) + (d.day - 1 : Int) - daysToEpoch

/-- The year that starts on the last 1 March up to a day, counted from 1 March of year 0. The mean
year of 146097 / 400 days gives it or the year before it. -/
def marchYear (n : Int) : Int :=
  let y := n * 400 / 146097
  if daysToMarch (y + 1) ≤ n then y + 1 else y

/-- The date with a number. -/
def ofDay (day : Int) : Date :=
  let n := day + daysToEpoch
  let year := marchYear n
  let dayOfYear := (n - daysToMarch year).toNat
  let index := (5 * dayOfYear + 2) / 153
  let day := dayOfYear - daysToMonth index + 1
  if index < 10 then ⟨year, index + 3, day⟩ else ⟨year + 1, index - 9, day⟩

end Date

end BuildYard
