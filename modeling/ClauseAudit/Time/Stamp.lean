import ClauseAudit.Time.Calendar

/-!
# Time stamps

A stamp is a local time, with its offset from Coordinated Universal Time where that is known.
Stamps without an offset are taken to be universal. In messages and wire forms a stamp is written
in universal time, cut to milliseconds.
-/

namespace ClauseAudit.Time

structure Stamp where
  /-- Microseconds of the local clock from the start of the year 1. -/
  clock : Int
  /-- Microseconds by which the local clock is ahead of universal time. -/
  offset : Option Int
  deriving DecidableEq, Repr

def padded (width n : Nat) : String := String.ofList (Text.paddedDigits width n)

def dateText (c : Civil) : String :=
  padded 4 c.year.toNat ++ "-" ++ padded 2 c.month ++ "-" ++ padded 2 c.day

def timeText (c : Civil) : String :=
  padded 2 c.hour ++ ":" ++ padded 2 c.minute ++ ":" ++ padded 2 c.second

/-- A fraction of a second, unless it is zero. -/
def fractionText (micros : Nat) : String := if micros = 0 then "" else "." ++ padded 6 micros

/-- Hours and minutes of an offset with a sign; seconds and their fraction only where needed. -/
def offsetText (offset : Int) : String :=
  let rest := offset.natAbs
  let seconds := rest / 1000000
  let micros := rest % 1000000
  (if offset < 0 then "-" else "+") ++ padded 2 (seconds / 3600) ++ ":"
    ++ padded 2 (seconds / 60 % 60)
    ++ (if seconds % 60 = 0 && micros = 0 then "" else ":" ++ padded 2 (seconds % 60))
    ++ fractionText micros

/-- An instant of universal time in milliseconds; what is finer is cut off. -/
def universalText (t : Int) : String :=
  let c := Civil.ofMicros t
  dateText c ++ "T" ++ timeText c ++ "." ++ padded 3 (c.microsecond / 1000) ++ "Z"

namespace Stamp

def isoText (s : Stamp) : String :=
  let c := Civil.ofMicros s.clock
  dateText c ++ "T" ++ timeText c ++ fractionText c.microsecond
    ++ (match s.offset with
      | some o => offsetText o
      | none => "")

def universal (s : Stamp) : Except OutOfRange Int := shift s.clock (-(s.offset.getD 0))

def utcText (s : Stamp) : Except OutOfRange String := s.universal.map universalText

end Stamp

end ClauseAudit.Time
