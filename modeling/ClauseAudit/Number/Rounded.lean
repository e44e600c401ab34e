import ClauseAudit.Number.Shortest

/-!
# Rounded decimal notation

Writes a value with a given number of digits, either after the point, or in all with an exponent,
or in the shorter of the two forms. Rounding is exact, and ties go to the even digit.
-/

namespace ClauseAudit.Binary64

/-- The value of a mantissa and exponent in units of a power of ten, rounded. -/
def roundedAt (m : Nat) (e : Int) (places : Int) : Nat :=
  let (num, den) := scaled m 1 e
  match places with
  | .ofNat k => roundHalfEven (num * Nat.pow 10 k) den
  | .negSucc k => roundHalfEven num (den * Nat.pow 10 (k + 1))

/-- A point before the last digits; none at all when there are no digits after it, unless the
point is to be kept. -/
def withPoint (keepPoint : Bool) (digits : List Char) (places : Nat) : List Char :=
  let digits := List.replicate (places + 1 - digits.length) '0' ++ digits
  let whole := digits.take (digits.length - places)
  if places = 0 then whole ++ (if keepPoint then ['.'] else [])
  else whole ++ '.' :: digits.drop (digits.length - places)

/-- A magnitude with the given digits after the point. -/
def fixedChars (keepPoint : Bool) (m : Nat) (e : Int) (places : Nat) : List Char :=
  withPoint keepPoint (Text.decimal (roundedAt m e places)).toList places

/-- A fraction is at least a power of ten. -/
def atLeastPower (num den : Nat) : Int → Bool
  | .ofNat k => den * Nat.pow 10 k ≤ num
  | .negSucc k => den ≤ num * Nat.pow 10 (k + 1)

/-- The exponent of the first digit of a fraction that is not zero. The lengths of its terms tell
it up to one. -/
def firstExponent (num den : Nat) : Int :=
  let guess : Int := ((Text.decimal num).length : Int) - (Text.decimal den).length
  if atLeastPower num den guess then guess else guess - 1

/-- The leading digits of a magnitude and the exponent of the first one. -/
def leading (m : Nat) (e : Int) (count : Nat) : Nat × Int :=
  if m = 0 then (0, 0)
  else
    let (num, den) := scaled m 1 e
    let exponent := firstExponent num den
    let n := roundedAt m e (count - 1 - exponent)
    if (Text.decimal n).length > count then (n / 10, exponent + 1) else (n, exponent)

/-- An exponent of at least two digits. -/
def exponentChars (letter : Char) (e : Int) : List Char :=
  let ds := (Text.decimal e.natAbs).toList
  letter :: (if e < 0 then '-' else '+') :: (if ds.length < 2 then '0' :: ds else ds)

/-- A magnitude with one digit before the point and an exponent. -/
def scientificChars (keepPoint : Bool) (letter : Char) (m : Nat) (e : Int) (places : Nat) :
    List Char :=
  let (n, exponent) := leading m e (places + 1)
  withPoint keepPoint (Text.paddedDigits (places + 1) n) places ++ exponentChars letter exponent

/-- Digits after a point without zeros at the end. -/
def dropEndZeros (cs : List Char) : List Char :=
  if cs.contains '.' then
    match cs.reverse.dropWhile (· == '0') with
    | '.' :: rest => rest.reverse
    | rest => rest.reverse
  else cs

/-- A magnitude with so many digits: positional for moderate exponents. -/
def generalChars (keepPoint : Bool) (letter : Char) (m : Nat) (e : Int) (count : Nat) :
    List Char :=
  let count := max count 1
  let (n, exponent) := leading m e count
  let trim := fun cs => if keepPoint then cs else dropEndZeros cs
  if -4 ≤ exponent && exponent < count then
    trim (fixedChars keepPoint m e (count - 1 - exponent).toNat)
  else
    trim (withPoint keepPoint (Text.paddedDigits count n) (count - 1))
      ++ exponentChars letter exponent

end ClauseAudit.Binary64
