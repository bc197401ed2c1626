namespace Workflow

/-!
# Instants

An instant is a day, a second of the day and nanoseconds, all in UTC.  Days are counted from
1 January 1970 in the Gregorian calendar, which is carried on before its introduction.  A leap
second is the 59th second of a minute with a thousand million nanoseconds or more.
-/

/-- A moment in UTC. -/
structure Instant where
  day : Int
  second : Nat
  nano : Nat
  deriving DecidableEq

/-- A date of the Gregorian calendar. -/
structure Date where
  year : Int
  month : Nat
  day : Nat
  deriving DecidableEq

namespace Date

/-- A year with 366 days. -/
def isLeapYear (year : Int) : Bool := year % 4 == 0 && (year % 100 != 0 || year % 400 == 0)

/-- How many days a month has. -/
def daysInMonth (year : Int) (month : Nat) : Nat :=
  if month = 2 then (if isLeapYear year then 29 else 28)
  else if month = 4 ∨ month = 6 ∨ month = 9 ∨ month = 11 then 30
  else 31

/-- The month and the day exist, and the year is one that dates can have. -/
def isValid (d : Date) : Bool :=
  -262143 ≤ d.year && d.year ≤ 262142 && 1 ≤ d.month && d.month ≤ 12 && 1 ≤ d.day &&
    d.day ≤ daysInMonth d.year d.month

/-- The number of the day.  Years start in March here, so that a leap day is the last of its year,
and the first day of each month is a rounded multiple of 30.6 days. -/
def toDay (d : Date) : Int :=
  let year := if d.month ≤ 2 then d.year - 1 else d.year
  let era := year / 400
  let yearOfEra := year - era * 400
  let monthOfYear : Int := if d.month ≤ 2 then d.month + 9 else d.month - 3
  let dayOfYear := (153 * monthOfYear + 2) / 5 + d.day - 1
  let dayOfEra := yearOfEra * 365 + yearOfEra / 4 - yearOfEra / 100 + dayOfYear
  era * 146097 + dayOfEra - 719468

/-- The date of a day. -/
def ofDay (day : Int) : Date :=
  let shifted := day + 719468
  let era := shifted / 146097
  let dayOfEra := shifted - era * 146097
  let yearOfEra := (dayOfEra - dayOfEra / 1460 + dayOfEra / 36524 - dayOfEra / 146096) / 365
  let dayOfYear := dayOfEra - (365 * yearOfEra + yearOfEra / 4 - yearOfEra / 100)
  let monthOfYear := (5 * dayOfYear + 2) / 153
  let dayOfMonth := dayOfYear - (153 * monthOfYear + 2) / 5 + 1
  let month := if monthOfYear < 10 then monthOfYear + 3 else monthOfYear - 9
  let year := yearOfEra + era * 400
  ⟨if month ≤ 2 then year + 1 else year, month.toNat, dayOfMonth.toNat⟩

/-- The first day that a date can have. -/
def firstDay : Int := toDay ⟨-262143, 1, 1⟩

/-- The last day that a date can have. -/
def lastDay : Int := toDay ⟨262142, 12, 31⟩

end Date

namespace Instant

/-- The nanoseconds in a second. -/
def nanosPerSecond : Nat := 1000000000

/-- The nanoseconds from an instant to another, a leap second between them included. -/
def nanosSince (later earlier : Instant) : Int :=
  let leap : Int :=
    if earlier.second < later.second ∧ nanosPerSecond ≤ earlier.nano then 1
    else if later.second < earlier.second ∧ nanosPerSecond ≤ later.nano then -1
    else 0
  let seconds := (later.day - earlier.day) * 86400 + (later.second - earlier.second : Int) + leap
  seconds * nanosPerSecond + (later.nano - earlier.nano : Int)

/-- Digits of a number, with zeros before it up to a width. -/
def padded (width n : Nat) : String :=
  let digits := Nat.toDigits 10 n
  String.ofList (List.replicate (width - digits.length) '0' ++ digits)

/-- The date, a year outside four digits with its sign. -/
def dateText (i : Instant) : String :=
  let date := Date.ofDay i.day
  let year :=
    if 0 ≤ date.year ∧ date.year ≤ 9999 then padded 4 date.year.toNat
    else (if date.year < 0 then "-" else "+") ++ padded 4 date.year.natAbs
  year ++ "-" ++ padded 2 date.month ++ "-" ++ padded 2 date.day

/-- The time, with as many groups of three fraction digits as it takes. -/
def timeText (i : Instant) : String :=
  let leap := nanosPerSecond ≤ i.nano
  let nano := if leap then i.nano - nanosPerSecond else i.nano
  let second := i.second % 60 + if leap then 1 else 0
  let fraction :=
    if nano = 0 then ""
    else if nano % 1000000 = 0 then "." ++ padded 3 (nano / 1000000)
    else if nano % 1000 = 0 then "." ++ padded 6 (nano / 1000)
    else "." ++ padded 9 nano
  padded 2 (i.second / 3600) ++ ":" ++ padded 2 (i.second / 60 % 60) ++ ":" ++ padded 2 second ++
    fraction

/-- The text that is sent and stored. -/
def toText (i : Instant) : String := i.dateText ++ "T" ++ i.timeText ++ "Z"

/-- The text in listings. -/
def display (i : Instant) : String := i.dateText ++ " " ++ i.timeText ++ " UTC"

end Instant

end Workflow
