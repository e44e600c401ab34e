import ClauseAudit.Json.Value
import ClauseAudit.Text.Integer

/-!
# Reading JSON

Reading stops at the first fault and reports what was expected and at which character. Besides
standard JSON the names of the three values that are not finite are read as numbers. There may be a
limit to the digits of an integer.
-/

namespace ClauseAudit.Json

/-- What is wrong with a text that is not JSON. -/
inductive Cause where
  | value
  | fieldName
  | colon
  | comma
  | openString
  | controlCharacter
  | escape
  | unicodeEscape
  | extraData
  | longInteger (digits : Nat)
  deriving DecidableEq, Repr

def Cause.message : Cause → String
  | .value => "Expecting value"
  | .fieldName => "Expecting property name enclosed in double quotes"
  | .colon => "Expecting ':' delimiter"
  | .comma => "Expecting ',' delimiter"
  | .openString => "Unterminated string starting at"
  | .controlCharacter => "Invalid control character at"
  | .escape => "Invalid \\escape"
  | .unicodeEscape => "Invalid \\uXXXX escape"
  | .extraData => "Extra data"
  | .longInteger digits => Text.tooManyDigits digits

/-- A fault and the index of the character it is reported at. -/
structure Fault where
  cause : Cause
  position : Nat
  deriving DecidableEq, Repr

/-- The unread part of a text and the index of its first character. -/
structure Cursor where
  position : Nat
  rest : List Char

namespace Cursor

def isSpace (c : Char) : Bool := c == ' ' || c == '\t' || c == '\n' || c == '\r'

def advance (cur : Cursor) (n : Nat) : Cursor := ⟨cur.position + n, cur.rest.drop n⟩

/-- Past the white space at the front. -/
def skipSpace (cur : Cursor) : Cursor := cur.advance (cur.rest.takeWhile isSpace).length

def fail (cur : Cursor) (cause : Cause) : Except Fault α := .error ⟨cause, cur.position⟩

end Cursor

/-- The value of four hexadecimal digits at the front. -/
def hexUnit? : List Char → Option Nat
  | a :: b :: c :: d :: _ => do
    let a ← Text.hexValue? a
    let b ← Text.hexValue? b
    let c ← Text.hexValue? c
    let d ← Text.hexValue? d
    return ((a * 16 + b) * 16 + c) * 16 + d
  | _ => none

/-- The character that a one-letter escape stands for. -/
def simpleEscape? : Char → Option Char
  | '"' => some '"'
  | '\\' => some '\\'
  | '/' => some '/'
  | 'b' => some (Char.ofNat 8)
  | 'f' => some (Char.ofNat 12)
  | 'n' => some '\n'
  | 'r' => some '\r'
  | 't' => some '\t'
  | _ => none

/-- A unit that stands for no character by itself. -/
def replacement : Char := Char.ofNat 0xFFFD

/-- The character of a unit and the one that may follow it, with the number of characters read
after the first four digits. -/
def unitChar (unit : Nat) (after : List Char) : Char × Nat :=
  if 0xD800 ≤ unit && unit < 0xDC00 then
    match after with
    | '\\' :: 'u' :: more =>
      match hexUnit? more with
      | some low =>
        if 0xDC00 ≤ low && low < 0xE000 then
          (Char.ofNat (0x10000 + (unit - 0xD800) * 0x400 + (low - 0xDC00)), 6)
        else (replacement, 0)
      | none => (replacement, 0)
    | _ => (replacement, 0)
  else if 0xDC00 ≤ unit && unit < 0xE000 then (replacement, 0)
  else (Char.ofNat unit, 0)

/-- Reads a string whose opening quote stands at `start`. The characters read so far are given
from the last one. -/
def readString (start : Nat) : Nat → List Char → Cursor → Except Fault (String × Cursor)
  | 0, _, _ => .error ⟨.openString, start⟩
  | fuel + 1, acc, cur =>
    match cur.rest with
    | [] => .error ⟨.openString, start⟩
    | '"' :: _ => .ok (String.ofList acc.reverse, cur.advance 1)
    | '\\' :: [] => .error ⟨.openString, start⟩
    | '\\' :: 'u' :: more =>
      if (more.take 5).length < 5 then .error ⟨.unicodeEscape, cur.position + 1⟩
      else match hexUnit? more with
        | none => .error ⟨.unicodeEscape, cur.position + 1⟩
        | some unit =>
          let (c, extra) := unitChar unit (more.drop 4)
          readString start fuel (c :: acc) (cur.advance (6 + extra))
    | '\\' :: c :: _ =>
      match simpleEscape? c with
      | some e => readString start fuel (e :: acc) (cur.advance 2)
      | none => cur.fail .escape
    | c :: _ =>
      if c.toNat < 0x20 then cur.fail .controlCharacter
      else readString start fuel (c :: acc) (cur.advance 1)

def digitsValue (ds : List Char) : Nat := ds.foldl (fun n d => n * 10 + (d.toNat - '0'.toNat)) 0

def leadingDigits (cs : List Char) : List Char := cs.takeWhile Text.isAsciiDigit

/-- The fraction digits after a point, with the length of the whole part. -/
def fractionPart : List Char → List Char × Nat
  | '.' :: cs => let ds := leadingDigits cs; if ds.isEmpty then ([], 0) else (ds, ds.length + 1)
  | _ => ([], 0)

/-- The value of an exponent part and its length. -/
def exponentPart : List Char → Int × Nat
  | e :: cs =>
    if e != 'e' && e != 'E' then (0, 0)
    else
      let (negative, signLength, body) := match cs with
        | '-' :: body => (true, 1, body)
        | '+' :: body => (false, 1, body)
        | body => (false, 0, body)
      let ds := leadingDigits body
      if ds.isEmpty then (0, 0)
      else
        let n : Int := digitsValue ds
        (if negative then -n else n, 1 + signLength + ds.length)
  | [] => (0, 0)

/-- Whether a minus sign stands at the front, its length, and what follows it. -/
def signPart : List Char → Bool × Nat × List Char
  | '-' :: body => (true, 1, body)
  | body => (false, 0, body)

/-- The digits before a point; after a zero at the front there are no more. -/
def wholePart : List Char → List Char
  | '0' :: _ => ['0']
  | body => leadingDigits body

/-- The number at the front and its length. -/
def number? (cs : List Char) : Option (Value × Nat) :=
  let (negative, signLength, body) := signPart cs
  let whole := wholePart body
  if whole.isEmpty then none
  else
    let after := body.drop whole.length
    let (fraction, fractionLength) := fractionPart after
    let (exponent, exponentLength) := exponentPart (after.drop fractionLength)
    let length := signLength + whole.length + fractionLength + exponentLength
    if fractionLength = 0 && exponentLength = 0 then
      let n : Int := digitsValue whole
      some (.int (if negative then -n else n), length)
    else
      let digits := digitsValue (whole ++ fraction)
      some (.real (.ofDecimal negative digits (exponent - fraction.length)), length)

/-- Names of values. -/
def namedValues : List (List Char × Value) :=
  [("null".toList, .null), ("true".toList, .bool true), ("false".toList, .bool false),
   ("NaN".toList, .real .nan), ("Infinity".toList, .real (.infinite false)),
   ("-Infinity".toList, .real (.infinite true))]

/-- The digits of an integer that has more than the limit. -/
def excess? (limit : Option Nat) : Value → Option Nat
  | .int i => limit.bind (Text.excess? · i)
  | _ => none

/-- A named value or number at the front. -/
def readScalar (limit : Option Nat) (cur : Cursor) : Except Fault (Value × Cursor) :=
  match namedValues.find? (·.1.isPrefixOf cur.rest) with
  | some (name, v) => .ok (v, cur.advance name.length)
  | none => match number? cur.rest with
    | some (v, length) =>
      match excess? limit v with
      | some digits => cur.fail (.longInteger digits)
      | none => .ok (v, cur.advance length)
    | none => cur.fail .value

section Values

variable (limit : Option Nat)

mutual

/-- Reads the value at the cursor. -/
def readValue : Nat → Cursor → Except Fault (Value × Cursor)
  | 0, cur => cur.fail .value
  | fuel + 1, cur =>
    match cur.rest with
    | '"' :: _ => do
      let (s, cur) ← readString cur.position (cur.rest.length + 1) [] (cur.advance 1)
      return (.str s, cur)
    | '[' :: _ =>
      let inner := (cur.advance 1).skipSpace
      match inner.rest with
      | ']' :: _ => .ok (.arr [], inner.advance 1)
      | _ => do
        let (items, cur) ← readItems fuel inner
        return (.arr items, cur)
    | '\x7b' :: _ =>
      let inner := (cur.advance 1).skipSpace
      match inner.rest with
      | '\x7d' :: _ => .ok (.obj [], inner.advance 1)
      | _ => do
        let (fields, cur) ← readFields fuel [] inner
        return (.obj fields, cur)
    | _ => readScalar limit cur

/-- Reads the items of an array up to its end. -/
def readItems : Nat → Cursor → Except Fault (List Value × Cursor)
  | 0, cur => cur.fail .value
  | fuel + 1, cur => do
    let (v, cur) ← readValue fuel cur
    let cur := cur.skipSpace
    match cur.rest with
    | ']' :: _ => return ([v], cur.advance 1)
    | ',' :: _ =>
      let (rest, cur) ← readItems fuel (cur.advance 1).skipSpace
      return (v :: rest, cur)
    | _ => cur.fail .comma

/-- Reads the fields of an object up to its end and sets them after the ones given. -/
def readFields : Nat → Fields → Cursor → Except Fault (Fields × Cursor)
  | 0, _, cur => cur.fail .fieldName
  | fuel + 1, fields, cur =>
    match cur.rest with
    | '"' :: _ => do
      let (name, cur) ← readString cur.position (cur.rest.length + 1) [] (cur.advance 1)
      let cur := cur.skipSpace
      match cur.rest with
      | ':' :: _ =>
        let (v, cur) ← readValue fuel (cur.advance 1).skipSpace
        let fields := fields.set name v
        let cur := cur.skipSpace
        match cur.rest with
        | '\x7d' :: _ => return (fields, cur.advance 1)
        | ',' :: _ => readFields fuel fields (cur.advance 1).skipSpace
        | _ => cur.fail .comma
      | _ => cur.fail .colon
    | _ => cur.fail .fieldName

end

end Values

/-- The JSON value that a text holds, when no integer in it has more digits than the limit. -/
def readWithin (limit : Option Nat) (text : String) : Except Fault Value := do
  let cs := text.toList
  let (v, cur) ← readValue limit (2 * cs.length + 2) (Cursor.mk 0 cs).skipSpace
  let cur := cur.skipSpace
  if cur.rest.isEmpty then return v else cur.fail .extraData

/-- The JSON value that a text holds. -/
def read (text : String) : Except Fault Value := readWithin none text

end ClauseAudit.Json
