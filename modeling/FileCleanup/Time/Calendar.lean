namespace FileCleanup.Time

/-! The proleptic Gregorian calendar: dates and day numbers, counted from 1970-01-01. -/

structure Date where
  year : Int
  month : Nat
  day : Nat
  deriving DecidableEq, Repr

/-- Days from 1 January of year 0 to 1 January of `year`. -/
def daysBeforeYear (year : Int) : Int :=
  365 * year + (year + 3) / 4 - (year + 99) / 100 + (year + 399) / 400

def isLeapYear (year : Int) : Bool :=
  year % 4 = 0 && (year % 100 ≠ 0 || year % 400 = 0)

def monthLengths (leap : Bool) : List Nat :=
  [31, if leap then 29 else 28, 31, 30, 31, 30, 31, 31, 30, 31, 30, 31]

/-- Days from the start of the year to the start of a month. -/
def daysBeforeMonth (leap : Bool) (month : Nat) : Nat :=
  ((monthLengths leap).take (month - 1)).foldl (· + ·) 0

def epochDays : Int := daysBeforeYear 1970

namespace Date

def Valid (date : Date) : Prop :=
  1 ≤ date.month ∧ date.month ≤ 12 ∧ 1 ≤ date.day ∧
    date.day ≤ (monthLengths (isLeapYear date.year)).getD (date.month - 1) 0

instance (date : Date) : Decidable date.Valid :=
  inferInstanceAs (Decidable (_ ∧ _ ∧ _ ∧ _))

def dayNumber (date : Date) : Int :=
  daysBeforeYear date.year + daysBeforeMonth (isLeapYear date.year) date.month + date.day - 1 -
    epochDays

/-- The month and the day of the month that lie `offset` days after the first day of the year. -/
def monthAndDay (month : Nat) (lengths : List Nat) (offset : Nat) : Nat × Nat :=
  match lengths with
  | [] => (month, offset + 1)
  | length :: rest =>
    if offset < length then (month, offset + 1) else monthAndDay (month + 1) rest (offset - length)

/-- The year that contains day `days`, counted from 1 January of year 0.  The mean year of the
calendar has 146097/400 days, so the estimate is at most one off. -/
def yearOfDays (days : Int) : Int :=
  let estimate := days * 400 / 146097
  if daysBeforeYear (estimate + 1) ≤ days then estimate + 1
  else if daysBeforeYear estimate ≤ days then estimate
  else estimate - 1

def ofDayNumber (number : Int) : Date :=
  let days := number + epochDays
  let year := yearOfDays days
  let place := monthAndDay 1 (monthLengths (isLeapYear year)) (days - daysBeforeYear year).toNat
  ⟨year, place.1, place.2⟩

end Date

end FileCleanup.Time
