import QueryText.Number.Decimal

/-!
# QueryText — dates and times

Dates, times of day and their combinations, each with its text. A year has at least four digits,
and a sign if it is negative or has more; a fraction of a second has as few groups of three
digits as say it exactly.
-/

namespace QueryText

open Number (padded)

structure Date where
  year : Int
  month : Nat
  day : Nat
  deriving DecidableEq, Repr

/-- A time of day. A leap second is the second before it with a thousand million more
nanoseconds. -/
structure TimeOfDay where
  hour : Nat
  minute : Nat
  second : Nat
  nanosecond : Nat
  deriving DecidableEq, Repr

structure Timestamp where
  date : Date
  time : TimeOfDay
  deriving DecidableEq, Repr

/-- A local timestamp with its distance from universal time, in seconds. -/
structure ZonedTimestamp where
  localTime : Timestamp
  offset : Int
  deriving DecidableEq, Repr

def yearText (year : Int) : String :=
  (if year < 0 then "-" else if 9999 < year then "+" else "") ++ padded 4 year.natAbs

def Date.text (date : Date) : String :=
  yearText date.year ++ "-" ++ padded 2 date.month ++ "-" ++ padded 2 date.day

/-- The text of a fraction of a second, given in nanoseconds. -/
def fractionText (nanoseconds : Nat) : String :=
  if nanoseconds = 0 then ""
  else if nanoseconds % 1000000 = 0 then "." ++ padded 3 (nanoseconds / 1000000)
  else if nanoseconds % 1000 = 0 then "." ++ padded 6 (nanoseconds / 1000)
  else "." ++ padded 9 nanoseconds

def TimeOfDay.text (time : TimeOfDay) : String :=
  padded 2 time.hour ++ ":" ++ padded 2 time.minute ++ ":" ++
    padded 2 (time.second + time.nanosecond / 1000000000) ++
    fractionText (time.nanosecond % 1000000000)

/-- The text of a timestamp, with a separator between date and time. -/
def Timestamp.text (timestamp : Timestamp) (separator : String) : String :=
  timestamp.date.text ++ separator ++ timestamp.time.text

/-- The text of an offset, rounded to the nearest minute; half a minute goes away from zero. -/
def offsetText (seconds : Int) : String :=
  let minutes := (seconds.natAbs + 30) / 60
  (if seconds < 0 then "-" else "+") ++ padded 2 (minutes / 60) ++ ":" ++ padded 2 (minutes % 60)

/-- The text of a timestamp with its offset. -/
def ZonedTimestamp.text (timestamp : ZonedTimestamp) : String :=
  timestamp.localTime.text "T" ++ offsetText timestamp.offset

end QueryText
