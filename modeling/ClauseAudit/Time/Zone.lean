import ClauseAudit.Time.Stamp

/-!
# Time zones

A zone has kinds of time, each with an offset, and changes from one kind to another at instants of
universal time. Before its first change the first kind is in force.
-/

namespace ClauseAudit.Time

/-- How the table writes a zone. A kind is its offset in seconds and whether it is summer time. A
change is written as the time since the change before and the index of its kind: three digits of
base 64 count quarters of an hour, and after an exclamation mark six digits count seconds. The
first time counts from the earliest instant that 32 bits hold. -/
structure ZoneEntry where
  names : List String
  kinds : List (Int × Bool)
  changes : List String

/-- A kind of time. The offset is in microseconds. -/
structure ZoneKind where
  offset : Int
  summer : Bool
  deriving DecidableEq, Repr, Inhabited

structure Zone where
  first : ZoneKind
  /-- Instants in microseconds from the start of the year 1, in increasing order. -/
  changes : List (Int × ZoneKind)
  deriving Repr

namespace ZoneEntry

def digitAlphabet : List Char :=
  "0123456789ABCDEFGHIJKLMNOPQRSTUVWXYZabcdefghijklmnopqrstuvwxyz-_".toList

def digit (c : Char) : Nat := digitAlphabet.idxOf c

def digits (cs : List Char) : Nat := cs.foldl (fun n c => n * 64 + digit c) 0

def epoch : Int := (dayNumber 1970 1 1 - 1) * microsPerDay

/-- Reads changes after the one at the given second. -/
def readChanges (kinds : List ZoneKind) (second : Int) : List Char → List (Int × ZoneKind)
  | '!' :: a :: b :: c :: d :: e :: f :: k :: rest =>
    let second := second + digits [a, b, c, d, e, f]
    (epoch + second * microsPerSecond, (kinds[digit k]?).getD default)
      :: readChanges kinds second rest
  | a :: b :: c :: k :: rest =>
    let second := second + 900 * digits [a, b, c]
    (epoch + second * microsPerSecond, (kinds[digit k]?).getD default)
      :: readChanges kinds second rest
  | _ => []

def zone (e : ZoneEntry) : Zone :=
  let kinds := e.kinds.map fun k => ⟨k.1 * microsPerSecond, k.2⟩
  { first := kinds.headD default
    changes := readChanges kinds (-2147483648) (e.changes.flatMap String.toList) }

end ZoneEntry

namespace Zone

def universal : Zone := { first := ⟨0, false⟩, changes := [] }

/-- The kind of time in force at an instant. -/
def kindAt (z : Zone) (t : Int) : ZoneKind :=
  z.changes.foldl (fun kind change => if change.1 ≤ t then change.2 else kind) z.first

/-- The stamp of an instant. -/
def stampAt (z : Zone) (t : Int) : Except OutOfRange Stamp := do
  let offset := (z.kindAt t).offset
  return ⟨← shift t offset, some offset⟩

/-- The kind of time that the clock shows at some instant, if the kind in force about that
instant leads there. -/
def candidate (z : Zone) (clock about : Int) : Except OutOfRange (Option ZoneKind) := do
  let t ← shift clock (-(z.kindAt about).offset)
  let kind := z.kindAt t
  return if (← shift t kind.offset) = clock then some kind else none

/-- The kinds of time that a clock may mean, from the days before and after. -/
def candidates (z : Zone) (clock : Int) : Except OutOfRange (List ZoneKind) := do
  let found ← [-microsPerDay, microsPerDay].filterMapM fun d =>
    match shift clock d with
    | .ok about => z.candidate clock about
    | .error _ => .ok none
  match found with
  | [a, b] => return if a.offset = b.offset then [a] else [a, b]
  | found => return found

/-- Of two kinds that a clock may mean the one that is not summer time, or else the later
instant. -/
def prefer (a b : ZoneKind) : ZoneKind :=
  if a.summer && !b.summer then b
  else if b.summer && !a.summer then a
  else if a.offset ≤ b.offset then a else b

/-- The kind of time that a clock shows. A clock that is passed over when time jumps ahead is
read as the clock some hours earlier. -/
def localKind (z : Zone) : Nat → Int → Except OutOfRange ZoneKind
  | 0, _ => .ok z.first
  | fuel + 1, clock => do
    match ← z.candidates clock with
    | [kind] => return kind
    | [a, b] => return prefer a b
    | _ => z.localKind fuel (← shift clock (-6 * 3600 * microsPerSecond))

def localize (z : Zone) (clock : Int) : Except OutOfRange Stamp := do
  if z.changes.isEmpty then return ⟨clock, some z.first.offset⟩
  return ⟨clock, some (← z.localKind 16 clock).offset⟩

end Zone

/-- A stamp in a zone: the same instant, or without an offset the same clock. -/
def Stamp.inZone (s : Stamp) (z : Zone) : Except OutOfRange Stamp :=
  match s.offset with
  | none => z.localize s.clock
  | some _ => do z.stampAt (← s.universal)

end ClauseAudit.Time
