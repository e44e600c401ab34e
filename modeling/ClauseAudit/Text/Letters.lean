import ClauseAudit.Text.LetterTable

/-!
# Letters, digits and words

Classes of characters that patterns and names are made of. Every test decides ASCII directly and
looks all other characters up in the tables.
-/

namespace ClauseAudit.Text

def isAsciiLetter (c : Char) : Bool := ('a' ≤ c && c ≤ 'z') || ('A' ≤ c && c ≤ 'Z')

def isAsciiDigit (c : Char) : Bool := '0' ≤ c && c ≤ '9'

def isLetter (c : Char) : Bool :=
  if c.val < 0x80 then isAsciiLetter c else letterRanges.contains c.toNat

/-- Letters and everything that stands for a number. -/
def isAlphanumeric (c : Char) : Bool :=
  if c.val < 0x80 then isAsciiLetter c || isAsciiDigit c
  else letterRanges.contains c.toNat || numberRanges.contains c.toNat

/-- Word characters are the alphanumeric ones and the underscore. -/
def isWord (c : Char) : Bool := c == '_' || isAlphanumeric c

def isAsciiWord (c : Char) : Bool := c == '_' || isAsciiLetter c || isAsciiDigit c

/-- The value of a decimal digit of any script. -/
def decimalValue? (c : Char) : Option Nat :=
  if c.val < 0x80 then if isAsciiDigit c then some (c.toNat - '0'.toNat) else none
  else (decimalZeros.find? fun z => z ≤ c.toNat && c.toNat < z + 10).map (c.toNat - ·)

def isDecimal (c : Char) : Bool := (decimalValue? c).isSome

def isIdentifierStart (c : Char) : Bool :=
  if c.val < 0x80 then c == '_' || isAsciiLetter c else identifierStartRanges.contains c.toNat

def isIdentifierPart (c : Char) : Bool :=
  if c.val < 0x80 then isAsciiWord c
  else identifierStartRanges.contains c.toNat || identifierExtraRanges.contains c.toNat

/-- An identifier starts with a letter or underscore and goes on with letters, digits and marks. -/
def isIdentifier : List Char → Bool
  | [] => false
  | c :: rest => isIdentifierStart c && rest.all isIdentifierPart

def hexValue? (c : Char) : Option Nat :=
  if '0' ≤ c && c ≤ '9' then some (c.toNat - '0'.toNat)
  else if 'a' ≤ c && c ≤ 'f' then some (c.toNat - 'a'.toNat + 10)
  else if 'A' ≤ c && c ≤ 'F' then some (c.toNat - 'A'.toNat + 10)
  else none

def hexDigit (n : Nat) : Char :=
  if n < 10 then Char.ofNat ('0'.toNat + n) else Char.ofNat ('a'.toNat + (n - 10))

/-- The last `width` hexadecimal digits of a number. -/
def hexDigits : Nat → Nat → List Char
  | 0, _ => []
  | width + 1, n => hexDigits width (n / 16) ++ [hexDigit (n % 16)]

def decimal (n : Nat) : String := n.repr

def signedDecimal : Int → String
  | .ofNat n => decimal n
  | .negSucc n => "-" ++ decimal (n + 1)

/-- The last `width` decimal digits of a number. -/
def paddedDigits : Nat → Nat → List Char
  | 0, _ => []
  | width + 1, n => paddedDigits width (n / 10) ++ [Char.ofNat ('0'.toNat + n % 10)]

end ClauseAudit.Text
