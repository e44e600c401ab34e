import ClauseAudit.Regex.Matcher
import ClauseAudit.Regex.Reader

/-!
# Pattern literals

A pattern is written between slashes with flag letters after the second one. The last slash ends
the pattern, so a pattern may hold slashes itself. Four flags have a meaning; four more are known
from other notations and are refused by name.
-/

namespace ClauseAudit

structure Flags where
  ignoreCase : Bool := false
  multiline : Bool := false
  dotAll : Bool := false
  unicode : Bool := false
  deriving DecidableEq, Repr

/-- Why flags are refused, decided by the first letter at fault. -/
inductive FlagFault where
  | repeated (c : Char)
  | unsupported (c : Char)
  | unknown (c : Char)
  deriving DecidableEq, Repr

namespace FlagFault

def message : FlagFault → String
  | repeated c => "repeated regex flag " ++ Text.quoted c.toString
  | unsupported c => "unsupported regex flag " ++ Text.quoted c.toString
  | unknown c => "unknown regex flag " ++ Text.quoted c.toString

end FlagFault

namespace Flags

/-- Flags of other notations: global, sticky, indices, sets. -/
def foreignLetters : List Char := ['g', 'y', 'd', 'v']

/-- Turns on the flag of a letter. -/
def add? (f : Flags) : Char → Option Flags
  | 'i' => some { f with ignoreCase := true }
  | 'm' => some { f with multiline := true }
  | 's' => some { f with dotAll := true }
  | 'u' => some { f with unicode := true }
  | _ => none

/-- Reads letters after those already seen. -/
def readFrom (f : Flags) (seen : List Char) : List Char → Except FlagFault Flags
  | [] => .ok f
  | c :: rest =>
    if seen.contains c then .error (.repeated c)
    else if foreignLetters.contains c then .error (.unsupported c)
    else match f.add? c with
      | none => .error (.unknown c)
      | some f => readFrom f (c :: seen) rest

def read (letters : String) : Except FlagFault Flags := readFrom {} [] letters.toList

/-- The flags as a number: one bit for each. -/
def bits (f : Flags) : Nat :=
  (if f.ignoreCase then 2 else 0) + (if f.multiline then 8 else 0) + (if f.dotAll then 16 else 0)
    + (if f.unicode then 32 else 0)

def mode (f : Flags) : Regex.Mode :=
  { ignoreCase := f.ignoreCase, multiline := f.multiline, dotAll := f.dotAll,
    unicode := f.unicode }

end Flags

/-- Why a pattern with its flags cannot be used. -/
inductive LiteralFault where
  | flags (fault : FlagFault)
  | pattern (pattern flags : String) (fault : Regex.Fault)
  deriving DecidableEq, Repr

namespace Literal

/-- A pattern and its flags as they are written. -/
def format (pattern flags : String) : String := "/" ++ pattern ++ "/" ++ flags

/-- Letters that may stand after the second slash. Four letters outside ASCII agree with ASCII
letters when case is ignored. -/
def isFlagLetter (c : Char) : Bool :=
  Text.isAsciiLetter c || [0x130, 0x131, 0x17F, 0x212A].contains c.toNat

/-- A text without the line feed that may end it. -/
def dropFinalNewline (cs : List Char) : List Char :=
  if cs.getLast? == some '\n' then cs.dropLast else cs

/-- The parts before and after the last slash. -/
def splitLast? (cs : List Char) : Option (List Char × List Char) :=
  let after := (cs.reverse.takeWhile (· != '/')).reverse
  if after.length < cs.length then some (cs.take (cs.length - after.length - 1), after) else none

/-- The pattern and flags of a literal. -/
def splitChars? : List Char → Option (List Char × List Char)
  | '/' :: rest =>
    match splitLast? (dropFinalNewline rest) with
    | some (pattern, flags) =>
      if !pattern.isEmpty && flags.all isFlagLetter then some (pattern, flags) else none
    | none => none
  | _ => none

def split? (raw : String) : Option (String × String) :=
  (splitChars? raw.toList).map fun parts => (String.ofList parts.1, String.ofList parts.2)

/-- The pattern that a text and its flags stand for. -/
def compile (pattern flags : String) : Except LiteralFault Regex.Pattern :=
  match Flags.read flags with
  | .error fault => .error (.flags fault)
  | .ok f =>
    match Regex.Pattern.parse pattern f.mode with
    | .error fault => .error (.pattern pattern flags fault)
    | .ok p => .ok p

end Literal

namespace LiteralFault

def message : LiteralFault → String
  | flags fault => fault.message
  | pattern p f fault =>
    if fault.isPatternError then
      "invalid pattern " ++ Literal.format p f ++ ": " ++ fault.message p
    else fault.message p

def isOverflow : LiteralFault → Bool
  | pattern _ _ fault => fault.isOverflow
  | flags _ => false

end LiteralFault

end ClauseAudit
