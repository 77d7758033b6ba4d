import ApiReference.Snapshot.Timestamp

/-!
Points in time from the count of a clock: seconds since the start of 1970.
-/

namespace ApiReference

/-- The days from the first of March of the year 0 to the start of 1970. -/
def daysTo1970 : Int := 719468

/-- The days of four hundred years. -/
def daysOfCycle : Int := 146097

/-- The date that is some days after the start of 1970: year, month and day. Years are counted
from March on, so that a 29th of February ends its year. -/
def dateOfDay (days : Int) : Int × Nat × Nat :=
  let inCycle := (days + daysTo1970) % daysOfCycle
  let yearInCycle := (inCycle - inCycle / 1460 + inCycle / 36524 - inCycle / 146096) / 365
  let inYear := inCycle - (365 * yearInCycle + yearInCycle / 4 - yearInCycle / 100)
  -- From March on, any five months in a row have 153 days.
  let month := (5 * inYear + 2) / 153
  let day := inYear - (153 * month + 2) / 5 + 1
  let year := yearInCycle + 400 * ((days + daysTo1970) / daysOfCycle)
  if month < 10 then (year, (month + 3).toNat, day.toNat)
  else (year + 1, (month - 9).toNat, day.toNat)

/-- The point in time that is some nanoseconds after the start of 1970. -/
def Timestamp.ofClock? (nanoseconds : Int) : Option Timestamp :=
  let seconds := nanoseconds / 1000000000
  let (year, month, day) := dateOfDay (seconds / 86400)
  let inDay := (seconds % 86400).toNat
  Timestamp.ofFields? year month day (inDay / 3600) (inDay / 60 % 60) (inDay % 60)
    (nanoseconds % 1000000000).toNat

end ApiReference
