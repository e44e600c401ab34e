/-!
# Binary floating-point numbers

The 64-bit binary format as exact values: a finite number is `mantissa * 2 ^ exponent` with at most
53 bits of mantissa and an exponent from -1074 to 971. Decimal and rational numbers are rounded to
the nearest value, ties to the even mantissa.
-/

namespace ClauseAudit

inductive Binary64 where
  | finite (negative : Bool) (mantissa : Nat) (exponent : Int)
  | infinite (negative : Bool)
  | nan
  deriving DecidableEq, Repr

namespace Binary64

def minExponent : Int := -1074
def maxExponent : Int := 971
def mantissaBits : Nat := 53

/-- The quotient rounded to the nearest integer, a half to the even neighbour. -/
def roundHalfEven (num den : Nat) : Nat :=
  let q := num / den
  let twice := 2 * (num % den)
  if den < twice || (twice == den && q % 2 == 1) then q + 1 else q

/-- `num / den` times a power of two, as a fraction. -/
def scaled (num den : Nat) (shift : Int) : Nat × Nat :=
  match shift with
  | .ofNat k => (num * Nat.pow 2 k, den)
  | .negSucc k => (num, den * Nat.pow 2 (k + 1))

/-- The greatest exponent of two not above the fraction, which is positive. -/
def floorLog2 (num den : Nat) : Int :=
  let guess : Int := (Nat.log2 num : Int) - Nat.log2 den
  let (n, d) := scaled num den (-guess)
  if n < d then guess - 1 else guess

/-- The value nearest to a non-negative fraction, with the given sign. -/
def ofFraction (negative : Bool) (num den : Nat) : Binary64 :=
  if num = 0 then .finite negative 0 minExponent
  else
    let e := max (floorLog2 num den - 52) minExponent
    let (n, d) := scaled num den (-e)
    let m := roundHalfEven n d
    let (m, e) := if m = Nat.pow 2 mantissaBits then (m / 2, e + 1) else (m, e)
    if maxExponent < e then .infinite negative else .finite negative m e

/-- The value nearest to `digits * 10 ^ exponent`. -/
def ofDecimal (negative : Bool) (digits : Nat) (exponent : Int) : Binary64 :=
  let magnitude : Int := (Nat.log2 digits : Int) * 3 / 10 + exponent
  if digits = 0 || magnitude < -500 then .finite negative 0 minExponent
  else if 500 < magnitude then .infinite negative
  else match exponent with
    | .ofNat k => ofFraction negative (digits * Nat.pow 10 k) 1
    | .negSucc k => ofFraction negative digits (Nat.pow 10 (k + 1))

def ofInt (i : Int) : Binary64 := ofFraction (i < 0) i.natAbs 1

def isZero : Binary64 → Bool
  | .finite _ m _ => m == 0
  | _ => false

def toInt? : Binary64 → Option Int
  | .finite neg m e =>
    let (n, d) := scaled m 1 e
    if n % d = 0 then some (if neg then -(n / d : Int) else (n / d : Int)) else none
  | _ => none

end Binary64

end ClauseAudit
