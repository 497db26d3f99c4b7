/-!
# Dates

A day of the Gregorian calendar, extended to the years before it was in use; the year before year 1
is year 0. Years run from −262143 to 262142.

* `Date`: a day that exists;
* `Date.ofParts?`: the day with a given year, month and day of the month;
* dates are ordered in time.
-/

namespace PagedQuery

/-- A leap year: every fourth year, but of the full centuries only every fourth. -/
def isLeapYear (year : Int) : Bool :=
  year % 4 == 0 && (year % 100 != 0 || year % 400 == 0)

/-- How many days a month has. -/
def daysInMonth (year : Int) (month : Nat) : Nat :=
  match month with
  | 2 => if isLeapYear year then 29 else 28
  | 4 | 6 | 9 | 11 => 30
  | _ => 31

/-- Whether a year, a month and a day of the month name a day. -/
def IsDate (year : Int) (month day : Nat) : Prop :=
  (-262143 ≤ year ∧ year ≤ 262142) ∧ (1 ≤ month ∧ month ≤ 12) ∧
    1 ≤ day ∧ day ≤ daysInMonth year month

instance (year : Int) (month day : Nat) : Decidable (IsDate year month day) :=
  inferInstanceAs (Decidable (_ ∧ _ ∧ _))

/-- A day of the calendar. -/
structure Date where
  year : Int
  month : Nat
  day : Nat
  isDate : IsDate year month day
deriving DecidableEq

namespace Date

/-- The day that the numbers name, if they name one. -/
def ofParts? (year : Int) (month day : Nat) : Option Date :=
  if h : IsDate year month day then some ⟨year, month, day, h⟩ else none

/-- Dates are ordered by year, then month, then day. -/
instance : Ord Date :=
  ⟨compareLex (compareOn year) (compareLex (compareOn month) (compareOn day))⟩

end Date

end PagedQuery
