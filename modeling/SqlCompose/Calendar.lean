/-! Calendar dates and times of day as milliseconds since the beginning of 1970. The
calendar is the Gregorian one, continued backwards through a year zero. -/

namespace SqlCompose

structure Date where
  year : Int
  month : Nat
  day : Nat
deriving DecidableEq

/-- A time of day. Nanoseconds from `10 ^ 9` on count into the next second. -/
structure TimeOfDay where
  hour : Nat
  minute : Nat
  second : Nat
  nanosecond : Nat
deriving DecidableEq

/-- A date and a time of day at longitude zero. -/
structure DateTime where
  date : Date
  time : TimeOfDay
deriving DecidableEq

/-- Local date and time, with the number of seconds by which local clocks are ahead. -/
structure ZonedDateTime where
  localTime : DateTime
  offset : Int
deriving DecidableEq

/-- Leap years are those divisible by 4, except the centuries that are not by 400. -/
def isLeapYear (year : Int) : Bool :=
  year % 4 == 0 && (year % 100 != 0 || year % 400 == 0)

def daysInMonth (year : Int) : Nat → Nat
  | 2 => if isLeapYear year then 29 else 28
  | 4 | 6 | 9 | 11 => 30
  | _ => 31

/-- Days from the first of January of the year 1 to that of `year`. -/
def daysBeforeYear (year : Int) : Int :=
  let past := year - 1
  365 * past + past / 4 - past / 100 + past / 400

/-- Days from the first of January to the first day of `month`. -/
def daysBeforeMonth (year : Int) (month : Nat) : Nat :=
  (List.range (month - 1)).foldl (fun days m => days + daysInMonth year (m + 1)) 0

namespace Date

/-- A day that the calendar has. -/
def Valid (d : Date) : Prop :=
  1 ≤ d.month ∧ d.month ≤ 12 ∧ 1 ≤ d.day ∧ d.day ≤ daysInMonth d.year d.month

instance (d : Date) : Decidable d.Valid := by
  unfold Valid
  infer_instance

/-- The calendar day after `d`. -/
def next (d : Date) : Date :=
  if d.day < daysInMonth d.year d.month then { d with day := d.day + 1 }
  else if d.month < 12 then { d with month := d.month + 1, day := 1 }
  else ⟨d.year + 1, 1, 1⟩

/-- Days since the first of January 1970. -/
def dayNumber (d : Date) : Int :=
  daysBeforeYear d.year + daysBeforeMonth d.year d.month + d.day - 1 - daysBeforeYear 1970

/-- Milliseconds from the beginning of 1970 to midnight. -/
def epochMillis (d : Date) : Int :=
  d.dayNumber * 86400000

end Date

/-- Milliseconds since midnight, rounded down. -/
def TimeOfDay.millis (t : TimeOfDay) : Nat :=
  ((t.hour * 60 + t.minute) * 60 + t.second) * 1000 + t.nanosecond / 1000000

def DateTime.epochMillis (t : DateTime) : Int :=
  t.date.epochMillis + t.time.millis

def ZonedDateTime.epochMillis (z : ZonedDateTime) : Int :=
  z.localTime.epochMillis - z.offset * 1000

end SqlCompose
