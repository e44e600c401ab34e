import ClauseAudit.Regex.Cursor
import ClauseAudit.Text.CharName

/-!
# Escapes of patterns

What a backslash and the characters after it stand for, inside and outside a character set. All
faults of an escape are reported at its backslash, unless noted.
-/

namespace ClauseAudit.Regex

/-- What an escape outside a set stands for. -/
inductive EscapeValue where
  | code (n : Nat)
  | category (cat : Category) (negated : Bool)
  | textStart
  | textEnd
  | wordBoundary (negated : Bool)
  | group (n : Nat)
  deriving DecidableEq, Repr

namespace Escape

def isOctal (c : Char) : Bool := '0' ≤ c && c ≤ '7'

def octalValue (ds : List Char) : Nat := ds.foldl (fun n d => n * 8 + (d.toNat - '0'.toNat)) 0

def control? : Char → Option Nat
  | 'a' => some 7
  | 'f' => some 12
  | 'n' => some 10
  | 'r' => some 13
  | 't' => some 9
  | 'v' => some 11
  | '\\' => some 92
  | _ => none

def category? : Char → Option (Category × Bool)
  | 'd' => some (.digit, false)
  | 'D' => some (.digit, true)
  | 's' => some (.space, false)
  | 'S' => some (.space, true)
  | 'w' => some (.word, false)
  | 'W' => some (.word, true)
  | _ => none

def failAt (start : Nat) (reason : Reason) : Except Fault α := .error (.unreadable reason start)

def bad (start : Nat) (escape : List Char) : Except Fault α :=
  failAt start (.badEscape (String.ofList escape))

def readHex (start : Nat) (letter : Char) (count : Nat) (cur : Cursor) :
    Except Fault (Nat × Cursor) := do
  let (ds, after) ← cur.takeUpTo (Text.hexValue? · |>.isSome) count
  let escape := '\\' :: letter :: ds
  if ds.length < count then failAt start (.incompleteEscape (String.ofList escape))
  else if 0x7FFFFFFF < Text.hexValue ds then .error .codeTooLarge
  else if 0x10FFFF < Text.hexValue ds then bad start escape
  else return (Text.hexValue ds, after)

/-- A character given by its name between braces. -/
def readNamed (start : Nat) (cur : Cursor) : Except Fault (Nat × Cursor) := do
  match ← cur.skipChar? '\x7b' with
  | none => cur.fail .missingBrace 0
  | some inner =>
    let (name, after) ← inner.takeName '\x7d' .missingCharacterName
    match Text.codeNamed? name with
    | some n => return (n, after)
    | none => failAt start (.unknownCharacterName (String.ofList name))

/-- An escape that names one character by its code or name, if the letter starts one. -/
def readCode? (start : Nat) (letter : Char) (cur : Cursor) :
    Except Fault (Option (Nat × Cursor)) := do
  if letter = 'x' then return some (← readHex start letter 2 cur)
  else if letter = 'u' then return some (← readHex start letter 4 cur)
  else if letter = 'U' then return some (← readHex start letter 8 cur)
  else if letter = 'N' then return some (← readNamed start cur)
  else return none

/-- An octal escape in a set: up to three digits with a value of at most one byte. -/
def readSetOctal (start : Nat) (first : Char) (cur : Cursor) : Except Fault (Nat × Cursor) := do
  let (ds, after) ← cur.takeUpTo isOctal 2
  let n := octalValue (first :: ds)
  if 0o377 < n then failAt start (.octalTooLarge (String.ofList ('\\' :: first :: ds)))
  else return (n, after)

/-- The item that an escape in a set stands for. The cursor is past the letter. -/
def readInSet (start : Nat) (letter : Char) (cur : Cursor) : Except Fault (SetItem × Cursor) := do
  if letter = 'b' then return (.char 8, cur)
  else if let some n := control? letter then return (.char n, cur)
  else if let some (cat, negated) := category? letter then return (.category cat negated, cur)
  else if let some (n, after) ← readCode? start letter cur then return (.char n, after)
  else if isOctal letter then
    let (n, after) ← readSetOctal start letter cur
    return (.char n, after)
  else if Text.isAsciiDigit letter || Text.isAsciiLetter letter then bad start ['\\', letter]
  else return (.char letter.toNat, cur)

/-- A number after a backslash: three octal digits give a character, all others a group. -/
def readNumber (start : Nat) (first : Char) (cur : Cursor) :
    Except Fault (EscapeValue × Cursor) := do
  let (second, cur) ← cur.takeUpTo Text.isAsciiDigit 1
  match second with
  | [d] =>
    if isOctal first && isOctal d then
      let (third, after) ← cur.takeUpTo isOctal 1
      match third with
      | [e] =>
        let n := octalValue [first, d, e]
        if 0o377 < n then failAt start (.octalTooLarge (String.ofList ['\\', first, d, e]))
        else return (.code n, after)
      | _ => return (.group (octalValue [first] * 10 + octalValue [d]), cur)
    else return (.group ((first.toNat - '0'.toNat) * 10 + (d.toNat - '0'.toNat)), cur)
  | _ => return (.group (first.toNat - '0'.toNat), cur)

/-- What an escape outside a set stands for. The cursor is past the letter. -/
def read (start : Nat) (letter : Char) (cur : Cursor) : Except Fault (EscapeValue × Cursor) := do
  if letter = 'A' then return (.textStart, cur)
  else if letter = 'Z' then return (.textEnd, cur)
  else if letter = 'b' then return (.wordBoundary false, cur)
  else if letter = 'B' then return (.wordBoundary true, cur)
  else if let some (cat, negated) := category? letter then return (.category cat negated, cur)
  else if let some n := control? letter then return (.code n, cur)
  else if let some (n, after) ← readCode? start letter cur then return (.code n, after)
  else if letter = '0' then
    let (ds, after) ← cur.takeUpTo isOctal 2
    return (.code (octalValue ds), after)
  else if Text.isAsciiDigit letter then readNumber start letter cur
  else if Text.isAsciiLetter letter then bad start ['\\', letter]
  else return (.code letter.toNat, cur)

end Escape

end ClauseAudit.Regex
