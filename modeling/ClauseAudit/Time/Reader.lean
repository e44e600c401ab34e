import ClauseAudit.Time.Stamp

/-!
# Reading time stamps

Dates are written with or without dashes, as month and day or as week and day of the week. Any
single character may stand between date and time. Times are written with or without colons and may
stop after the hours or minutes; a fraction of any length follows a point or comma. A sign starts
the offset, and the letter Z stands for no offset.
-/

namespace ClauseAudit.Time

def readDigits : Nat → Nat → List Char → Option (Nat × List Char)
  | 0, value, cs => some (value, cs)
  | count + 1, value, c :: cs =>
    if Text.isAsciiDigit c then readDigits count (value * 10 + (c.toNat - '0'.toNat)) cs else none
  | _ + 1, _, [] => none

/-- The length of the date at the front of a text. A date of a week may go on with the day of the
week: an odd number of digits after the week tells that it does. -/
def dateLength? (cs : List Char) : Option Nat :=
  let isDigitAt := fun i => ((cs[i]?).map Text.isAsciiDigit).getD false
  if cs.length = 7 then some 7
  else if cs[4]? = some '-' then
    if cs[5]? = some 'W' then
      if cs[8]? = some '-' then
        if cs.length = 9 then none
        else if isDigitAt 10 then some 8
        else some 10
      else some 8
    else some 10
  else if cs[4]? = some 'W' then
    let stop := 7 + ((cs.drop 7).takeWhile Text.isAsciiDigit).length
    if stop < 9 then some stop else if stop % 2 = 0 then some 7 else some 8
  else some 8

/-- The first Monday that belongs to the first week of a year. -/
def firstMonday (year : Int) : Int :=
  let first := dayNumber year 1 1
  let w := weekday first
  if 3 < w then first - w + 7 else first - w

/-- A year has a week 53 when it starts on a Thursday, or on a Wednesday in a leap year. -/
def hasLongYear (year : Int) : Bool :=
  let w := weekday (dayNumber year 1 1)
  w == 3 || (w == 2 && isLeap year)

/-- The day in a week of a year. -/
def weekDate? (year : Int) (week day : Nat) : Option (Int × Nat × Nat) :=
  let weekOk := (1 ≤ week && week ≤ 52) || (week == 53 && hasLongYear year)
  if 1 ≤ year && weekOk && 1 ≤ day && day ≤ 7 then
    some (dayOf (firstMonday year + (week - 1 : Int) * 7 + (day - 1 : Int)))
  else none

/-- Passes a dash where one is needed. -/
def passDash (needed : Bool) (cs : List Char) : Option (List Char) :=
  if needed then
    match cs with
    | '-' :: rest => some rest
    | _ => none
  else some cs

/-- Reads a date of the given length. -/
def readDate (cs : List Char) (length : Nat) : Option (Int × Nat × Nat) := do
  let (year, rest) ← readDigits 4 0 cs
  let dashed := rest.head? == some '-'
  let rest := if dashed then rest.drop 1 else rest
  match rest with
  | 'W' :: rest =>
    let (week, rest) ← readDigits 2 0 rest
    if cs.length - rest.length < length then
      let (day, _) ← readDigits 1 0 (← passDash dashed rest)
      weekDate? year week day
    else weekDate? year week 1
  | rest =>
    let (month, rest) ← readDigits 2 0 rest
    let (day, _) ← readDigits 2 0 (← passDash dashed rest)
    return (year, month, day)

structure Clock where
  hour : Nat := 0
  minute : Nat := 0
  second : Nat := 0
  microsecond : Nat := 0
  deriving DecidableEq, Repr

namespace Clock

def setPart (c : Clock) (part value : Nat) : Clock :=
  match part with
  | 0 => { c with hour := value }
  | 1 => { c with minute := value }
  | _ => { c with second := value }

def micros (c : Clock) : Int :=
  ((c.hour * 60 + c.minute) * 60 + c.second : Nat) * microsPerSecond + c.microsecond

end Clock

/-- A fraction of a second: six digits count, and more are passed over. The second part tells
whether nothing else follows. -/
def readFraction (c : Clock) (cs : List Char) : Option (Clock × Bool) := do
  let count := min 6 cs.length
  let (value, rest) ← readDigits count 0 cs
  return ({ c with microsecond := value * Nat.pow 10 (6 - count) },
    (rest.dropWhile Text.isAsciiDigit).isEmpty)

/-- Reads a time from the given part on. The flag tells whether colons separate the parts. The
text has to end after a part; a single ASCII character too many is left for the caller to judge. -/
def readParts (c : Clock) (colons : Bool) (part : Nat) : Nat → List Char → Option (Clock × Bool)
  | 0, cs => readFraction c cs
  | left + 1, cs =>
    match readDigits 2 0 cs with
    | none => none
    | some (value, rest) =>
      let c := c.setPart part value
      match rest with
      | [] => some (c, true)
      | [d] => if d.val < 0x80 then some (c, false) else none
      | d :: more =>
        let colons := if part = 0 then d == ':' else colons
        if colons && d == ':' then readParts c colons (part + 1) left more
        else if d == '.' || d == ',' then readFraction c more
        else if !colons then readParts c colons (part + 1) left rest
        else none

def readClock (cs : List Char) : Option (Clock × Bool) := readParts {} false 0 3 cs

/-- Splits a time where its offset begins. -/
def splitOffset (cs : List Char) : List Char × Option (Bool × List Char) :=
  let time := cs.takeWhile fun c => c != '+' && c != '-'
  match cs.drop time.length with
  | sign :: rest => (time, some (sign == '-', rest))
  | [] => (time, none)

/-- Reads a time with its offset, in microseconds. Before an offset, characters after the time do
not matter. An offset below a second counts as none. -/
def readTime (cs : List Char) : Option (Clock × Option Int) := do
  let (time, offset) := splitOffset cs
  let (clock, complete) ← readClock time
  match offset with
  | none => if complete then return (clock, none) else none
  | some (negative, rest) =>
    let (o, complete) ← readClock rest
    if !complete then none
    let micros := if negative then -o.micros else o.micros
    return (clock, some (if o.micros < microsPerSecond then 0 else micros))

/-- The stamp that consists of a date, a time and an offset below one day. -/
def Stamp.make? (date : Int × Nat × Nat) (clock : Clock) (offset : Option Int) : Option Stamp :=
  let civil : Civil :=
    { year := date.1, month := date.2.1, day := date.2.2, hour := clock.hour,
      minute := clock.minute, second := clock.second, microsecond := clock.microsecond }
  if civil.fault?.isSome then none
  else if (offset.getD 0).natAbs < microsPerDay.toNat then some ⟨civil.micros, offset⟩
  else none

/-- Reads a stamp in which no letter stands for universal time. -/
def Stamp.readPlain? (cs : List Char) : Option Stamp := do
  if cs.length < 7 then none
  let length ← dateLength? cs
  let date ← readDate cs length
  if length < cs.length then
    let (clock, offset) ← readTime (cs.drop (length + 1))
    Stamp.make? date clock offset
  else Stamp.make? date {} none

def Stamp.read? (text : String) : Option Stamp :=
  Stamp.readPlain? (text.toList.flatMap fun c => if c = 'Z' then "+00:00".toList else [c])

end ClauseAudit.Time
