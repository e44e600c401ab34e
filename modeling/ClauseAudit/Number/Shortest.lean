import ClauseAudit.Number.Binary64
import ClauseAudit.Text.Letters

/-!
# Shortest decimal text of a floating-point number

A finite number is written with the fewest decimal digits that round back to it, and among those
with the nearest. Decimal exponents from -4 to 15 are written positionally, all others with a
signed exponent of at least two digits.
-/

namespace ClauseAudit.Binary64

/-- Twice the bounds of the reals that round to a positive value, as fractions with denominator
`den`: the value itself, the end below and the end above. -/
structure Interval where
  den : Nat
  value : Nat
  below : Nat
  above : Nat
  /-- The ends themselves round to the value. -/
  closed : Bool

/-- The interval of a positive value. Below a power of two the spacing is halved. -/
def interval (m : Nat) (e : Int) : Interval :=
  let (n, d) := scaled (4 * m) 4 e
  let (u, _) := scaled 1 4 e
  let low := if m = Nat.pow 2 52 && minExponent < e then u else 2 * u
  { den := d, value := n, below := n - low, above := n + 2 * u, closed := m % 2 == 0 }

/-- The fraction `num / den` lies in the interval. -/
def Interval.holds (i : Interval) (num den : Nat) : Bool :=
  if i.closed then i.below * den ≤ num * i.den && num * i.den ≤ i.above * den
  else i.below * den < num * i.den && num * i.den < i.above * den

def decimalFraction (digits : Nat) (place : Int) : Nat × Nat :=
  match place with
  | .ofNat k => (digits * Nat.pow 10 k, 1)
  | .negSucc k => (digits, Nat.pow 10 (k + 1))

/-- The multiple of `10 ^ place` that lies in the interval and is nearest to its value. -/
def nearestOn? (i : Interval) (place : Int) : Option Nat :=
  let (n, d) := decimalFraction 1 place
  let q := (i.value * d) / (i.den * n)
  let hit (k : Nat) : Bool := let (a, b) := decimalFraction k place; i.holds a b
  let twice := 2 * (i.value * d - q * (i.den * n))
  let up := i.den * n < twice || (twice == i.den * n && q % 2 == 1)
  match hit q, hit (q + 1) with
  | true, true => some (if up then q + 1 else q)
  | true, false => some q
  | false, true => some (q + 1)
  | false, false => none

def digitCount (n : Nat) : Nat := if n = 0 then 0 else (Text.decimal n).length

/-- The greatest exponent of ten not above the interval's value. -/
def floorLog10 (i : Interval) : Int :=
  let q := i.value / i.den
  if 0 < q then digitCount q - 1
  else
    let k := digitCount (i.den / i.value)
    if i.den ≤ i.value * Nat.pow 10 (k - 1) then -(k - 1 : Int) else -(k : Int)

/-- Shortest digits and the place of the last one, trying `count` digits and then more. -/
def shortestFrom (i : Interval) (top : Int) : Nat → Nat → Nat × Int
  | 0, count => ((i.value * (decimalFraction 1 (top + 1 - count)).2) / i.den, top + 1 - count)
  | tries + 1, count =>
    match nearestOn? i (top + 1 - count) with
    | some digits => (digits, top + 1 - count)
    | none => shortestFrom i top tries (count + 1)

/-- Digits without zeros at the end, and the place of the last one. -/
def trimZeros : Nat → Nat → Int → Nat × Int
  | 0, digits, place => (digits, place)
  | fuel + 1, digits, place =>
    if digits % 10 = 0 && digits ≠ 0 then trimZeros fuel (digits / 10) (place + 1)
    else (digits, place)

/-- The shortest decimal digits of a positive value and the place of the last one. -/
def shortest (m : Nat) (e : Int) : Nat × Int :=
  let i := interval m e
  let (digits, place) := shortestFrom i (floorLog10 i) 17 1
  trimZeros 20 digits place

def exponentText (e : Int) : String :=
  (if e < 0 then "e-" else "e+") ++ (if e.natAbs < 10 then "0" else "") ++ Text.decimal e.natAbs

def magnitudeText (m : Nat) (e : Int) : String :=
  let (digits, place) := shortest m e
  let ds := (Text.decimal digits).toList
  let point : Int := ds.length + place
  if -4 < point && point ≤ 16 then
    if point ≤ 0 then "0." ++ String.ofList (List.replicate (-point).toNat '0' ++ ds)
    else
      let whole := ds.take point.toNat ++ List.replicate (point.toNat - ds.length) '0'
      let fraction := ds.drop point.toNat
      String.ofList (whole ++ '.' :: (if fraction.isEmpty then ['0'] else fraction))
  else
    let tail := ds.drop 1
    String.ofList (ds.take 1 ++ (if tail.isEmpty then [] else '.' :: tail))
      ++ exponentText (point - 1)

/-- Spellings of the values that are not finite. -/
structure Spelling where
  infinite : String
  nan : String

def text (spelling : Spelling) : Binary64 → String
  | .finite neg m e => (if neg then "-" else "") ++ (if m = 0 then "0.0" else magnitudeText m e)
  | .infinite neg => (if neg then "-" else "") ++ spelling.infinite
  | .nan => spelling.nan

/-- How values read in plain text. -/
def plainSpelling : Spelling := ⟨"inf", "nan"⟩

end ClauseAudit.Binary64
