import AnswerQuery.Host.Numeral

/-! The calendar: moments, and the days and times of day that they are. -/

namespace AnswerQuery.Host.Calendar

/-- A moment: how many nanoseconds have passed since the beginning of 1970 in universal time. -/
abbrev Moment := Int

/-- How many nanoseconds a second has. -/
def nanosecondsPerSecond : Int := 1000000000

/-- How many seconds a day has. -/
def secondsPerDay : Int := 86400

/-- The moment so many seconds after the beginning of 1970. -/
def Moment.ofSeconds (seconds : Int) : Moment :=
  seconds * nanosecondsPerSecond

/-- The whole seconds since the beginning of 1970. -/
def Moment.seconds (moment : Moment) : Int :=
  Int.fdiv moment nanosecondsPerSecond

/-- The nanoseconds behind the last whole second. -/
def Moment.nanoseconds (moment : Moment) : Nat :=
  (Int.fmod moment nanosecondsPerSecond).toNat

/-- A day of the calendar. -/
structure Date where
  /-- The year. -/
  year : Int
  /-- The month, from one on. -/
  month : Nat
  /-- The day of the month, from one on. -/
  day : Nat
  deriving DecidableEq, Repr

/-- How many days there are from the first of March of the year 0 to the beginning of 1970. -/
def daysBefore : Int := 719468

/-- How many days four centuries have. -/
def daysPerEra : Int := 146097

/-- How many days after the beginning of 1970 a day is. Months behind the last one are those of later years, and days
behind the last one those of later months. -/
def dayNumber (year month day : Int) : Int :=
  let months := year * 12 + (month - 1)
  -- The year is begun with March, so that a leap day is its last one.
  let shifted := months - 2
  let year := Int.fdiv shifted 12
  let month := Int.fmod shifted 12
  let era := Int.fdiv year 400
  let yearOfEra := year - era * 400
  let dayOfYear := (153 * month + 2) / 5
  era * daysPerEra + yearOfEra * 365 + yearOfEra / 4 - yearOfEra / 100 + dayOfYear - daysBefore + (day - 1)

/-- The day so many days after the beginning of 1970. -/
def Date.ofNumber (number : Int) : Date :=
  let number := number + daysBefore
  let era := Int.fdiv number daysPerEra
  let dayOfEra := Int.fmod number daysPerEra
  let yearOfEra := (dayOfEra - dayOfEra / 1460 + dayOfEra / 36524 - dayOfEra / 146096) / 365
  let dayOfYear := dayOfEra - (365 * yearOfEra + yearOfEra / 4 - yearOfEra / 100)
  let month := (5 * dayOfYear + 2) / 153
  let day := dayOfYear - (153 * month + 2) / 5 + 1
  let isNext := 10 ≤ month
  { year := yearOfEra + era * 400 + (if isNext then 1 else 0)
    month := (if isNext then month - 9 else month + 3).toNat
    day := day.toNat }

/-- The day of the week of a day, from Sunday on. -/
def weekday (number : Int) : Nat :=
  -- The year 1970 began with a Thursday.
  (Int.fmod (number + 4) 7).toNat

/-- A time as calendars and clocks show it. -/
structure Shown where
  /-- The day. -/
  date : Date
  /-- The hour. -/
  hour : Nat
  /-- The minute. -/
  minute : Nat
  /-- The second. -/
  second : Nat
  /-- What is left of the second. -/
  nanosecond : Nat
  /-- How many days after the beginning of 1970 the day is. -/
  number : Int
  /-- How many seconds clocks are ahead of universal time. -/
  offset : Int := 0
  /-- What the time of clocks is called. -/
  zone : Raw := []
  /-- Whether it is summer time. -/
  isSummer : Bool := false
  deriving DecidableEq, Repr

/-- The time that clocks show which are so many seconds ahead of universal time. -/
def Shown.at (moment : Moment) (offset : Int) (zone : Raw) (isSummer : Bool) : Shown :=
  let seconds := moment.seconds + offset
  let number := Int.fdiv seconds secondsPerDay
  let rest := (Int.fmod seconds secondsPerDay).toNat
  { date := .ofNumber number
    hour := rest / 3600
    minute := rest / 60 % 60
    second := rest % 60
    nanosecond := moment.nanoseconds
    number, offset, zone, isSummer }

namespace Shown

/-- The moment of a time. -/
def moment (shown : Shown) : Moment :=
  Moment.ofSeconds (shown.number * secondsPerDay + Int.ofNat (shown.hour * 3600 + shown.minute * 60 + shown.second) -
    shown.offset) + Int.ofNat shown.nanosecond

/-- The day of the week, from Sunday on. -/
def weekday (shown : Shown) : Nat :=
  Calendar.weekday shown.number

/-- The day of the year, from zero on. -/
def dayOfYear (shown : Shown) : Nat :=
  (shown.number - dayNumber shown.date.year 1 1).toNat

/-- The week of the year, weeks beginning with a day of the week; the days before the first such day are in week 0. -/
def weekFrom (shown : Shown) (start : Nat) : Nat :=
  (shown.dayOfYear + 7 - (shown.weekday + 7 - start) % 7) / 7

/-- The week of the year and the year it counts to: a week begins with Monday and counts to the year of its Thursday. -/
def isoWeek (shown : Shown) : Int × Nat :=
  let thursday := shown.number - Int.ofNat ((shown.weekday + 6) % 7) + 3
  let year := (Date.ofNumber thursday).year
  (year, ((thursday - dayNumber year 1 1) / 7 + 1).toNat)

end Shown

end AnswerQuery.Host.Calendar
