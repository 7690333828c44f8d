/-!
# The calendar

Days are counted from the first of January 1970 in the Gregorian calendar, extended in both
directions. The days before a year follow from the leap-year rule in closed form. The other way
round, the year of a day is estimated from the mean length of a year, 146097 days in 400 years; the
estimate is off by at most one, so it is corrected by one step.
-/

namespace LinkGuard.Calendar

/-- A leap year: every fourth, but of the centuries only every fourth. -/
def isLeap (year : Int) : Bool :=
  year % 4 == 0 && (year % 100 != 0 || year % 400 == 0)

/-- The lengths of the months of a year. -/
def monthLengths (leap : Bool) : List Nat :=
  [31, if leap then 29 else 28, 31, 30, 31, 30, 31, 31, 30, 31, 30, 31]

/-- The days between the first of January of year 1 and that of a year, both at midnight. -/
def daysBeforeYear (year : Int) : Int :=
  let before := year - 1
  365 * before + before / 4 - before / 100 + before / 400

/-- The count that the first of January 1970 has from year 1. -/
def epoch : Int := 719162

/-- A date; days and months count from one. -/
structure Date where
  year : Int
  month : Nat
  day : Nat
  deriving DecidableEq, Repr

/-- Whether the month has the day. -/
def Date.exists (date : Date) : Bool :=
  1 ≤ date.month && 1 ≤ date.day &&
    ((monthLengths (isLeap date.year))[date.month - 1]?).any (date.day ≤ ·)

/-- The day count of a date. -/
def Date.toDays (date : Date) : Int :=
  daysBeforeYear date.year - epoch +
    (((monthLengths (isLeap date.year)).take (date.month - 1)).foldl (· + ·) (date.day - 1) : Nat)

/-- The month that holds a day of the year, counted from zero, and the day within it. -/
def locate (month : Nat) (day : Nat) : List Nat → Nat × Nat
  | [] => (month, day)
  | length :: rest => if day < length then (month, day) else locate (month + 1) (day - length) rest

/-- The year of a day that is counted from year 1. -/
def yearOf (day : Int) : Int :=
  let estimate := day * 400 / 146097 + 1
  if day < daysBeforeYear estimate then estimate - 1
  else if daysBeforeYear (estimate + 1) ≤ day then estimate + 1
  else estimate

/-- The date of a day count. -/
def Date.ofDays (days : Int) : Date :=
  let day := days + epoch
  let year := yearOf day
  let (month, inMonth) := locate 1 (day - daysBeforeYear year).toNat (monthLengths (isLeap year))
  ⟨year, month, inMonth + 1⟩

end LinkGuard.Calendar
