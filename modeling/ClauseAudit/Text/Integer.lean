import ClauseAudit.Text.Blank
import ClauseAudit.Text.Letters

/-!
# Integers in texts

Whole numbers in decimal digits of any script. Numbers with too many digits are not read.
-/

namespace ClauseAudit.Text

def maxIntegerDigits : Nat := 4300

/-- The digits of an integer when there are more of them than allowed. -/
def excess? (most : Nat) (i : Int) : Option Nat :=
  let digits := (Nat.toDigits 10 i.natAbs).length
  if most < digits then some digits else none

/-- How an integer with so many digits is refused. -/
def tooManyDigits (digits : Nat) : String :=
  "Exceeds the limit (" ++ decimal maxIntegerDigits ++ " digits) for integer string conversion: "
    ++ "value has " ++ decimal digits
    ++ " digits; use sys.set_int_max_str_digits() to increase the limit"

/-- Digits with single underscores between them. -/
def digitValues? : List Char → Option (List Nat)
  | [] => none
  | [c] => (decimalValue? c).map ([·])
  | c :: '_' :: rest => do return (← decimalValue? c) :: (← digitValues? rest)
  | c :: rest => do return (← decimalValue? c) :: (← digitValues? rest)

/-- The integer that a text writes, with a sign and blanks around it. -/
def integer? (cs : List Char) : Option Int := do
  let (negative, cs) := match stripChars cs with
    | '-' :: cs => (true, cs)
    | '+' :: cs => (false, cs)
    | cs => (false, cs)
  let ds ← digitValues? cs
  if ds.length > maxIntegerDigits then none
  let n := ds.foldl (fun n d => n * 10 + d) 0
  return if negative then -(Int.ofNat n) else Int.ofNat n

end ClauseAudit.Text
