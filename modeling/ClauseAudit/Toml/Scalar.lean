import ClauseAudit.Text.Letters
import ClauseAudit.Time.Calendar
import ClauseAudit.Toml.Value

/-!
# Numbers, dates and times in TOML

Each function reads what stands at the front of a text and gives the value and the rest. Digits
may be separated by single underscores.
-/

namespace ClauseAudit.Toml

/-- Digits with single underscores between them; the fuel bounds their number. -/
def moreDigits (isDigit : Char → Bool) : Nat → List Char → List Char × List Char
  | fuel + 1, '_' :: c :: rest =>
    if isDigit c then
      let (ds, rest) := moreDigits isDigit fuel rest
      (c :: ds, rest)
    else ([], '_' :: c :: rest)
  | fuel + 1, c :: rest =>
    if isDigit c then
      let (ds, rest) := moreDigits isDigit fuel rest
      (c :: ds, rest)
    else ([], c :: rest)
  | _, rest => ([], rest)

def digits? (isDigit : Char → Bool) : List Char → Option (List Char × List Char)
  | [] => none
  | c :: rest =>
    if isDigit c then
      let (ds, rest) := moreDigits isDigit rest.length rest
      some (c :: ds, rest)
    else none

/-- The value of digits in a base. -/
def inBase (base : Nat) (ds : List Char) : Nat :=
  ds.foldl (fun n d => n * base + (Text.hexValue? d).getD 0) 0

/-- A number with a base letter. -/
def based? : List Char → Option (Value × List Char)
  | '0' :: letter :: rest =>
    let read := fun (base : Nat) (isDigit : Char → Bool) =>
      (digits? isDigit rest).map fun (ds, rest) => (Value.int (inBase base ds), rest)
    match letter with
    | 'x' => read 16 fun c => (Text.hexValue? c).isSome
    | 'b' => read 2 fun c => c == '0' || c == '1'
    | 'o' => read 8 fun c => '0' ≤ c && c ≤ '7'
    | _ => none
  | _ => none

def sign : List Char → Bool × List Char
  | '-' :: rest => (true, rest)
  | '+' :: rest => (false, rest)
  | cs => (false, cs)

def fraction? : List Char → Option (List Char × List Char)
  | '.' :: rest => digits? Text.isAsciiDigit rest
  | _ => none

def exponent? : List Char → Option (Int × List Char)
  | e :: rest =>
    if e == 'e' || e == 'E' then
      let (negative, rest) := sign rest
      (digits? Text.isAsciiDigit rest).map fun (ds, rest) =>
        (if negative then -(inBase 10 ds : Int) else inBase 10 ds, rest)
    else none
  | [] => none

/-- The whole part of a decimal number: a zero, or digits that do not start with one. -/
def whole? : List Char → Option (List Char × List Char)
  | '0' :: rest => some (['0'], rest)
  | cs => digits? Text.isAsciiDigit cs

def decimal? (cs : List Char) : Option (Value × List Char) := do
  let (negative, rest) := sign cs
  let (whole, rest) ← whole? rest
  let fraction := fraction? rest
  let (fractionDigits, rest) := fraction.getD ([], rest)
  let exponent := exponent? rest
  let (e, rest) := exponent.getD (0, rest)
  if fraction.isNone && exponent.isNone then
    let n : Int := inBase 10 whole
    return (.int (if negative then -n else n), rest)
  else
    let n := inBase 10 (whole ++ fractionDigits)
    return (.real (.ofDecimal negative n (e - fractionDigits.length)), rest)

/-- Infinity and not-a-number, with or without a sign. -/
def special? (cs : List Char) : Option (Value × List Char) :=
  let (negative, rest) := sign cs
  match rest with
  | 'i' :: 'n' :: 'f' :: rest => some (.real (.infinite negative), rest)
  | 'n' :: 'a' :: 'n' :: rest => some (.real .nan, rest)
  | _ => none

/-- A number of exactly so many digits in a range. -/
def field? (width lo hi : Nat) (cs : List Char) : Option (Nat × List Char) :=
  let ds := cs.take width
  let n := inBase 10 ds
  if ds.length = width && ds.all Text.isAsciiDigit && lo ≤ n && n ≤ hi then
    some (n, cs.drop width)
  else none

def pass? (c : Char) : List Char → Option (List Char)
  | d :: rest => if c == d then some rest else none
  | [] => none

/-- Passes hours and minutes. -/
def hoursMinutes? (cs : List Char) : Option (List Char) := do
  let (_, rest) ← field? 2 0 23 cs
  let (_, rest) ← field? 2 0 59 (← pass? ':' rest)
  return rest

def clock? (cs : List Char) : Option (List Char) := do
  let rest ← hoursMinutes? cs
  let (_, rest) ← field? 2 0 59 (← pass? ':' rest)
  match rest with
  | '.' :: d :: more =>
    return if Text.isAsciiDigit d then more.dropWhile Text.isAsciiDigit else rest
  | rest => return rest

/-- Passes an offset, if there is one. -/
def passOffset (cs : List Char) : List Char :=
  match cs with
  | 'Z' :: rest => rest
  | 'z' :: rest => rest
  | c :: rest => if c == '+' || c == '-' then (hoursMinutes? rest).getD cs else cs
  | [] => cs

/-- Passes the time behind a date, if there is one. -/
def timeOfDate? : List Char → Option (List Char)
  | c :: rest => if c == 'T' || c == 't' || c == ' ' then clock? rest else none
  | [] => none

/-- A date, with or without a time. The second part is none when there is no such day. -/
def date? (cs : List Char) : Option (Option (Value × List Char)) := do
  let (year, rest) ← field? 4 0 9999 cs
  let (month, rest) ← field? 2 1 12 (← pass? '-' rest)
  let (day, rest) ← field? 2 1 31 (← pass? '-' rest)
  if year = 0 || Time.monthLength year month < day then return none
  match timeOfDate? rest with
  | some rest => return some (.moment .dateTime, passOffset rest)
  | none => return some (.moment .date, rest)

/-- A number, date or time. -/
def scalar? (cs : List Char) : Option (Value × List Char) :=
  match date? cs with
  | some found => found
  | none =>
    match clock? cs with
    | some rest => some (.moment .time, rest)
    | none => based? cs <|> decimal? cs <|> special? cs

end ClauseAudit.Toml
