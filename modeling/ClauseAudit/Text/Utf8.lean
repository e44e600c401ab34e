import ClauseAudit.Text.Letters

/-!
# Reading UTF-8

Bytes are read as the longest well-formed sequences. Bytes that do not belong to one are a fault:
the longest beginning of a sequence counts as one fault, and a sequence that the text ends within
is one fault to its end. A text can also be read by putting a replacement character in the place
of every fault.
-/

namespace ClauseAudit.Text

/-- What is wrong with bytes that are not UTF-8. -/
inductive Utf8Cause where
  | startByte
  | continuationByte
  | endOfData
  deriving DecidableEq, Repr

def Utf8Cause.message : Utf8Cause → String
  | startByte => "invalid start byte"
  | continuationByte => "invalid continuation byte"
  | endOfData => "unexpected end of data"

/-- The bytes at the front: a character and their count, or a cause and the count of bytes at
fault. -/
inductive Utf8Step where
  | char (c : Char) (length : Nat)
  | fault (cause : Utf8Cause) (length : Nat)
  deriving Repr

/-- The continuation bytes that a start byte needs, and the range of the first of them. The
ranges exclude overlong forms, surrogates and numbers beyond the last code point. -/
def utf8Lead? (b : Nat) : Option (Nat × Nat × Nat) :=
  if 0xC2 ≤ b && b ≤ 0xDF then some (1, 0x80, 0xBF)
  else if b = 0xE0 then some (2, 0xA0, 0xBF)
  else if b = 0xED then some (2, 0x80, 0x9F)
  else if 0xE1 ≤ b && b ≤ 0xEF then some (2, 0x80, 0xBF)
  else if b = 0xF0 then some (3, 0x90, 0xBF)
  else if 0xF1 ≤ b && b ≤ 0xF3 then some (3, 0x80, 0xBF)
  else if b = 0xF4 then some (3, 0x80, 0x8F)
  else none

/-- The bits of a start byte that belong to the code point. -/
def utf8LeadBits (count b : Nat) : Nat := b % Nat.pow 2 (6 - count)

/-- Reads continuation bytes. The range holds for the first of them. -/
def utf8Continue (lo hi value read : Nat) : Nat → List UInt8 → Utf8Step
  | 0, _ => .char (Char.ofNat value) read
  | _ + 1, [] => .fault .endOfData read
  | left + 1, b :: rest =>
    if lo ≤ b.toNat && b.toNat ≤ hi then
      utf8Continue 0x80 0xBF (value * 64 + b.toNat % 64) (read + 1) left rest
    else .fault .continuationByte read

/-- Reads what stands at the front. -/
def utf8Step (b : UInt8) (rest : List UInt8) : Utf8Step :=
  if b.toNat < 0x80 then .char (Char.ofNat b.toNat) 1
  else
    match utf8Lead? b.toNat with
    | none => .fault .startByte 1
    | some (count, lo, hi) => utf8Continue lo hi (utf8LeadBits count b.toNat) 1 count rest

/-- A fault of a text in UTF-8: its first byte and the positions it spans. -/
structure Utf8Fault where
  byte : UInt8
  start : Nat
  length : Nat
  cause : Utf8Cause
  deriving DecidableEq, Repr

namespace Utf8Fault

def message (f : Utf8Fault) : String :=
  let place :=
    if f.length = 1 then
      "byte 0x" ++ String.ofList (hexDigits 2 f.byte.toNat) ++ " in position " ++ decimal f.start
    else
      "bytes in position " ++ decimal f.start ++ "-" ++ decimal (f.start + f.length - 1)
  "'utf-8' codec can't decode " ++ place ++ ": " ++ f.cause.message

end Utf8Fault

/-- Reads characters from a position on; the fuel bounds their number. -/
def readUtf8From (position : Nat) : Nat → List UInt8 → Except Utf8Fault (List Char)
  | 0, _ => .ok []
  | _, [] => .ok []
  | fuel + 1, b :: rest =>
    match utf8Step b rest with
    | .char c length =>
      (readUtf8From (position + length) fuel (rest.drop (length - 1))).map (c :: ·)
    | .fault cause length => .error ⟨b, position, length, cause⟩

/-- The text in UTF-8, or its first fault. -/
def readUtf8 (bytes : List UInt8) : Except Utf8Fault String :=
  (readUtf8From 0 bytes.length bytes).map String.ofList

def replacementChar : Char := Char.ofNat 0xFFFD

def repairUtf8From : Nat → List UInt8 → List Char
  | 0, _ => []
  | _, [] => []
  | fuel + 1, b :: rest =>
    match utf8Step b rest with
    | .char c length => c :: repairUtf8From fuel (rest.drop (length - 1))
    | .fault _ length => replacementChar :: repairUtf8From fuel (rest.drop (length - 1))

/-- The text in UTF-8 with a replacement character for every fault. -/
def repairUtf8 (bytes : List UInt8) : String :=
  String.ofList (repairUtf8From bytes.length bytes)

/-- A text in which all line ends are line feeds. -/
def unifyLineEnds : List Char → List Char
  | [] => []
  | '\r' :: '\n' :: rest => '\n' :: unifyLineEnds rest
  | '\r' :: rest => '\n' :: unifyLineEnds rest
  | c :: rest => c :: unifyLineEnds rest

def withLineFeeds (s : String) : String := String.ofList (unifyLineEnds s.toList)

end ClauseAudit.Text
