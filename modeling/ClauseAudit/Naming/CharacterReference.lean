import ClauseAudit.Naming.NamedCharacters
import ClauseAudit.Text.Integer

/-!
# Character references

Replaces `&name;`, `&#233;` and `&#xE9;` by the characters they stand for. A text with a number
that stands for no character is left as it is.
-/

namespace ClauseAudit.Naming

open ClauseAudit

/-- The character with a number. Numbers that texts reserve for pairs give the null character. -/
def charNumbered? (n : Nat) : Option Char := if n < 0x110000 then some (Char.ofNat n) else none

/-- What follows an ampersand, if it is a reference: the character it stands for, if any, and what
remains. -/
abbrev ReferenceReader := List Char → Option (Option Char × List Char)

namespace ReferenceReader

/-- A name and a semicolon. -/
def named : ReferenceReader := fun cs =>
  let name := cs.takeWhile fun c => Text.isAsciiLetter c || Text.isAsciiDigit c
  match cs.drop name.length, namedCharacters.lookup (String.ofList name) with
  | ';' :: rest, some n => some (charNumbered? n, rest)
  | _, _ => none

def numeral (base : Nat) (ds : List Nat) : Nat := ds.foldl (fun n d => n * base + d) 0

/-- A number sign, a number and a semicolon. -/
def decimal : ReferenceReader
  | '#' :: cs =>
    let digits := (cs.takeWhile Text.isDecimal).filterMap Text.decimalValue?
    match digits, cs.drop digits.length with
    | _ :: _, ';' :: rest =>
      if digits.length > Text.maxIntegerDigits then some (none, rest)
      else some (charNumbered? (numeral 10 digits), rest)
    | _, _ => none
  | _ => none

/-- The value of a decimal digit of any script or of a hexadecimal letter. -/
def hexDigitValue? (c : Char) : Option Nat := (Text.hexValue? c).or (Text.decimalValue? c)

/-- A number sign, the letter `x`, a hexadecimal number and a semicolon. -/
def hexadecimal : ReferenceReader
  | '#' :: 'x' :: cs =>
    let digits := (cs.takeWhile (hexDigitValue? · |>.isSome)).filterMap hexDigitValue?
    match digits, cs.drop digits.length with
    | _ :: _, ';' :: rest => some (charNumbered? (numeral 16 digits), rest)
    | _, _ => none
  | _ => none

/-- Replaces every reference, if all stand for characters. What follows an ampersand is never
longer than the text. -/
def replaceWithin (read : ReferenceReader) : Nat → List Char → Option (List Char)
  | 0, cs => some cs
  | _, [] => some []
  | fuel + 1, c :: cs =>
    match if c = '&' then read cs else none with
    | some (char, rest) => do return (← char) :: (← replaceWithin read fuel rest)
    | none => (replaceWithin read fuel cs).map (c :: ·)

/-- A text with its references replaced, or as it is if one of them stands for no character. -/
def replace (read : ReferenceReader) (cs : List Char) : List Char :=
  (replaceWithin read cs.length cs).getD cs

end ReferenceReader

/-- Replaces names first, then decimal and then hexadecimal numbers. -/
def resolveReferences (cs : List Char) : List Char :=
  ReferenceReader.hexadecimal.replace
    (ReferenceReader.decimal.replace (ReferenceReader.named.replace cs))

end ClauseAudit.Naming
