import ClauseAudit.Text.Letters

/-!
# The calendar

Days are counted from the first day of the year 1, which is day 1, in the Gregorian calendar of
all times. Instants count microseconds from the start of that day and stay below the year 10000.
-/

namespace ClauseAudit.Time

def isLeap (year : Int) : Bool := year % 4 == 0 && (year % 100 != 0 || year % 400 == 0)

def monthLengths (year : Int) : List Nat :=
  [31, if isLeap year then 29 else 28, 31, 30, 31, 30, 31, 31, 30, 31, 30, 31]

def monthLength (year : Int) (month : Nat) : Nat := ((monthLengths year)[month - 1]?).getD 0

def daysBeforeYear (year : Int) : Int :=
  let y := year - 1
  y * 365 + y / 4 - y / 100 + y / 400

def daysBeforeMonth (year : Int) (month : Nat) : Nat :=
  ((monthLengths year).take (month - 1)).foldl (· + ·) 0

def dayNumber (year : Int) (month day : Nat) : Int :=
  daysBeforeYear year + daysBeforeMonth year month + day

/-- Finds the month in which a day of the year lies, counting days from zero. -/
def monthOf (month rest : Nat) : List Nat → Nat × Nat
  | [] => (month, rest + 1)
  | length :: lengths =>
    if rest < length then (month, rest + 1) else monthOf (month + 1) (rest - length) lengths

/-- The year in which a day lies. An estimate from the mean length of years is off by one at
most. -/
def yearOf (number : Int) : Int :=
  let guess := (number * 400) / 146097 + 1
  if number ≤ daysBeforeYear guess then guess - 1
  else if daysBeforeYear (guess + 1) < number then guess + 1
  else guess

/-- The year, month and day of a day number. -/
def dayOf (number : Int) : Int × Nat × Nat :=
  let year := yearOf number
  let (month, day) := monthOf 1 (number - daysBeforeYear year - 1).toNat (monthLengths year)
  (year, month, day)

/-- The day of the week; Monday is zero. -/
def weekday (number : Int) : Int := (number + 6) % 7

def microsPerSecond : Int := 1000000

def microsPerDay : Int := 86400 * microsPerSecond

structure Civil where
  year : Int
  month : Nat
  day : Nat
  hour : Nat
  minute : Nat
  second : Nat
  microsecond : Nat
  deriving DecidableEq, Repr

/-- The first field of a date or time that is out of its range. -/
inductive CivilFault where
  | year (y : Int)
  | month
  | day
  | hour
  | minute
  | second
  | microsecond
  deriving DecidableEq, Repr

def CivilFault.message : CivilFault → String
  | year y => "year " ++ Text.signedDecimal y ++ " is out of range"
  | month => "month must be in 1..12"
  | day => "day is out of range for month"
  | hour => "hour must be in 0..23"
  | minute => "minute must be in 0..59"
  | second => "second must be in 0..59"
  | microsecond => "microsecond must be in 0..999999"

namespace Civil

def fault? (c : Civil) : Option CivilFault :=
  if c.year < 1 || 9999 < c.year then some (.year c.year)
  else if c.month < 1 || 12 < c.month then some .month
  else if c.day < 1 || monthLength c.year c.month < c.day then some .day
  else if 23 < c.hour then some .hour
  else if 59 < c.minute then some .minute
  else if 59 < c.second then some .second
  else if 999999 < c.microsecond then some .microsecond
  else none

/-- Microseconds from the start of the year 1. -/
def micros (c : Civil) : Int :=
  (dayNumber c.year c.month c.day - 1) * microsPerDay
    + ((c.hour * 60 + c.minute) * 60 + c.second : Nat) * microsPerSecond + c.microsecond

/-- The date and time at a count of microseconds. -/
def ofMicros (t : Int) : Civil :=
  let (year, month, day) := dayOf (t / microsPerDay + 1)
  let rest := (t % microsPerDay).toNat
  let seconds := rest / 1000000
  { year, month, day, hour := seconds / 3600, minute := seconds / 60 % 60, second := seconds % 60,
    microsecond := rest % 1000000 }

end Civil

def endOfTime : Int := dayNumber 9999 12 31 * microsPerDay

/-- An instant before the year 1 or after the year 9999. -/
inductive OutOfRange where
  | mk
  deriving DecidableEq, Repr

def OutOfRange.message : OutOfRange → String := fun _ => "date value out of range"

/-- Moves an instant; it has to stay inside the calendar. -/
def shift (t d : Int) : Except OutOfRange Int :=
  if 0 ≤ t + d && t + d < endOfTime then .ok (t + d) else .error .mk

end ClauseAudit.Time
