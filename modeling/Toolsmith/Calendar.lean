/-!
# Dates and times of day

A moment is a number of seconds since the start of 1970, and may lie before it.  The Gregorian
calendar is carried through all years in both directions.  Years are counted from 1 March, so
that the leap day is the last of its year and every month has a fixed place.
-/

namespace Toolsmith.Calendar

structure Date where
  year : Int
  month : Nat
  day : Nat
  deriving DecidableEq, Repr

/-- The day that lies a number of days after 1 January 1970.  An era of 400 years has 146097 days
and begins on 1 March of a year divisible by 400. -/
def dateOfDays (days : Int) : Date :=
  let shifted := days + 719468
  let era := Int.fdiv shifted 146097
  let dayOfEra := (shifted - era * 146097).toNat
  let yearOfEra := (dayOfEra - dayOfEra / 1460 + dayOfEra / 36524 - dayOfEra / 146096) / 365
  let dayOfYear := dayOfEra - (365 * yearOfEra + yearOfEra / 4 - yearOfEra / 100)
  let monthFromMarch := (5 * dayOfYear + 2) / 153
  let day := dayOfYear - (153 * monthFromMarch + 2) / 5 + 1
  let month := if monthFromMarch < 10 then monthFromMarch + 3 else monthFromMarch - 9
  ⟨(yearOfEra : Int) + era * 400 + (if month ≤ 2 then 1 else 0), month, day⟩

def twoDigits (n : Nat) : String := if n < 10 then s!"0{n}" else s!"{n}"

/-- A moment as date and time of day in universal time.  The year has as many digits as it
needs. -/
def stamp (seconds : Int) : String :=
  let date := dateOfDays (Int.fdiv seconds 86400)
  let rest := (Int.fmod seconds 86400).toNat
  s!"{date.year}-{twoDigits date.month}-{twoDigits date.day}T" ++
    s!"{twoDigits (rest / 3600)}:{twoDigits (rest / 60 % 60)}:{twoDigits (rest % 60)}Z"

end Toolsmith.Calendar
