import PagedQuery.Calendar.Date

/-!
# Times and timestamps

A time of day in nanoseconds, without a time zone. The second may be the sixtieth: a leap second
comes after all of the minute's other seconds and before the next minute.

* `ClockTime`, `Timestamp`: a time of day, and one on a day;
* `Date.midnight`: the first moment of a day;
* both are ordered in time.
-/

namespace PagedQuery

/-- A time of day. -/
structure ClockTime where
  hour : Fin 24
  minute : Fin 60
  second : Fin 61
  nanosecond : Fin 1000000000
deriving DecidableEq

namespace ClockTime

/-- The time that the numbers name, if they are all in range. -/
def ofParts? (hour minute second nanosecond : Nat) : Option ClockTime :=
  if h : hour < 24 ∧ minute < 60 ∧ second < 61 ∧ nanosecond < 1000000000 then
    some ⟨⟨hour, h.1⟩, ⟨minute, h.2.1⟩, ⟨second, h.2.2.1⟩, ⟨nanosecond, h.2.2.2⟩⟩
  else none

/-- Times are ordered by their parts, the hour first. -/
instance : Ord ClockTime :=
  ⟨compareLex (compareOn hour) (compareLex (compareOn minute)
    (compareLex (compareOn second) (compareOn nanosecond)))⟩

end ClockTime

/-- A moment: a day and a time of day. -/
structure Timestamp where
  date : Date
  time : ClockTime
deriving DecidableEq

namespace Timestamp

/-- Timestamps are ordered by the day, then by the time. -/
instance : Ord Timestamp :=
  ⟨compareLex (compareOn date) (compareOn time)⟩

end Timestamp

/-- The moment at which a day starts. -/
def Date.midnight (d : Date) : Timestamp :=
  ⟨d, ⟨0, 0, 0, 0⟩⟩

end PagedQuery
