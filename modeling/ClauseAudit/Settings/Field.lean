import ClauseAudit.Settings.Issue
import ClauseAudit.Text.Blank
import ClauseAudit.Text.Case
import ClauseAudit.Text.Lines

/-!
# Kinds of settings

How values of settings files are taken for texts, truth values, integers and lists. Numbers and
truth values may be written as texts, in a few spellings.
-/

namespace ClauseAudit.Field

open Json (Value)

def text : Value → Checked String
  | .str s => .ok s
  | _ => .fail .notString

def trueWords : List String := ["1", "t", "y", "on", "yes", "true"]

def falseWords : List String := ["0", "f", "n", "no", "off", "false"]

def lowerAscii (s : String) : String :=
  String.ofList (s.toList.map fun c => if c.val < 0x80 then Text.lowerHead c else c)

def ofNumber (i : Int) : Checked Bool :=
  if i = 0 then .ok false else if i = 1 then .ok true else .fail .unreadableBoolean

/-- A truth value: zero, one, or a word for it. -/
def truth : Value → Checked Bool
  | .bool b => .ok b
  | .int i => ofNumber i
  | .real x =>
    match x.toInt? with
    | some i => ofNumber i
    | none => .fail .notBoolean
  | .str s =>
    let word := lowerAscii s
    if trueWords.contains word then .ok true
    else if falseWords.contains word then .ok false
    else .fail .unreadableBoolean
  | _ => .fail .notBoolean

/-- White space around a number. -/
def isNumberSpace (c : Char) : Bool := Text.isBlank c && !(0x1C ≤ c.val && c.val ≤ 0x1F)

def trimNumber (cs : List Char) : List Char :=
  ((cs.dropWhile isNumberSpace).reverse.dropWhile isNumberSpace).reverse

/-- The digits of a number after zeros and underscores at the front, of which the first has to be
a zero. One zero stays before a point or the end. -/
def dropZeros : List Char → Option (List Char)
  | '0' :: rest =>
    let after := rest.dropWhile fun c => c == '0' || c == '_'
    match after with
    | [] => some [((('0' :: rest).getLast?).getD '0')]
    | '.' :: _ =>
      let zeros := rest.length - after.length
      some ((('0' :: rest)[zeros]?).getD '0' :: after)
    | c :: _ => if Text.isAsciiDigit c then some after else none
  | c :: rest => if Text.isAsciiDigit c then some (c :: rest) else none
  | [] => none

/-- The text before a point that only zeros follow. -/
def dropZeroFraction (cs : List Char) : List Char :=
  let whole := cs.takeWhile (· != '.')
  if (cs.drop (whole.length + 1)).all (· == '0') then whole else cs

/-- No underscore at either end or beside another. -/
def separates (cs : List Char) : Bool :=
  cs.head? != some '_' && cs.getLast? != some '_' && !Text.hasInfix ['_', '_'] cs

def digitsValue (ds : List Char) : Nat := ds.foldl (fun n d => n * 10 + (d.toNat - '0'.toNat)) 0

/-- The number that a text without sign stands for. -/
def magnitude? (cs : List Char) : Option Nat := do
  let cs := dropZeroFraction (← dropZeros cs)
  let ds := if separates cs then cs.filter (· != '_') else cs
  if !ds.isEmpty && ds.all Text.isAsciiDigit then some (digitsValue ds) else none

/-- The integer that a text stands for. -/
def integerText? (s : String) : Option Int :=
  match trimNumber s.toList with
  | '+' :: cs => (magnitude? cs).map fun n => (n : Int)
  | '-' :: cs => (magnitude? cs).map fun n => -(n : Int)
  | cs => (magnitude? cs).map fun n => (n : Int)

def longestInteger : Nat := 4300

def integer : Value → Checked Int
  | .bool b => .ok (if b then 1 else 0)
  | .int i => .ok i
  | .real x =>
    match x with
    | .finite .. =>
      match x.toInt? with
      | some i => .ok i
      | none => .fail .notWhole
    | _ => .fail .notFinite
  | .str s =>
    if longestInteger < s.utf8ByteSize then .fail .integerTooLong
    else match integerText? s with
      | some i => .ok i
      | none => .fail .unreadableInteger
  | _ => .fail .notInteger

def port (v : Value) : Checked Int := do
  let i ← integer v
  if i < 1 then .fail (.below 1) else if 65535 < i then .fail (.above 65535) else return i

def positive (v : Value) : Checked Int := do
  let i ← integer v
  if 0 < i then return i else .fail (.notGreater 0)

/-- Texts from an index on. -/
def textsFrom (i : Nat) : List Value → Checked (List String)
  | [] => .ok []
  | v :: rest =>
    (Checked.ap ((Checked.under (.index i) (text v)).map List.cons) (textsFrom (i + 1) rest))

def texts : Value → Checked (List String)
  | .arr items => textsFrom 0 items
  | _ => .fail .notList

/-- A field of a section, or its default when it is missing. -/
def get (fields : Json.Fields) (name : String) (read : Value → Checked α) (default : α) :
    Checked α :=
  match fields.lookup name with
  | none => .ok default
  | some v => Checked.under (.field name) (read v)

end ClauseAudit.Field
