import ClauseAudit.Json.PlainText
import ClauseAudit.Number.Rounded

/-!
# Templates

A template has places for arguments, each after a percent sign: flags, a width, a precision and a
letter that says how the argument is written. Arguments are taken in order or, by names in round
brackets, from one object. A template whose places do not fit its arguments has no text.
-/

namespace ClauseAudit.Json.Template

structure Layout where
  left : Bool := false
  plus : Bool := false
  blank : Bool := false
  alternate : Bool := false
  zero : Bool := false
  width : Nat := 0
  precision : Option Nat := none
  deriving DecidableEq, Repr

/-- What is left of the arguments: those in order, or one object with the value that counts as the
next argument. -/
structure Arguments where
  fields : Option Json.Fields
  rest : List Value
  deriving Repr

namespace Arguments

/-- Arguments of a message: a single object that is not empty is taken by names. -/
def ofList (args : List Value) : Arguments :=
  match args with
  | [.obj (f :: fs)] => { fields := some (f :: fs), rest := [.obj (f :: fs)] }
  | args => { fields := none, rest := args }

def next? (a : Arguments) : Option (Value × Arguments) :=
  match a.rest with
  | v :: rest => some (v, { a with rest })
  | [] => none

/-- Arguments taken in order are all used up. -/
def isComplete (a : Arguments) : Bool := a.fields.isSome || a.rest.isEmpty

end Arguments

def setFlag (l : Layout) : Char → Option Layout
  | '-' => some { l with left := true }
  | '+' => some { l with plus := true }
  | ' ' => some { l with blank := true }
  | '#' => some { l with alternate := true }
  | '0' => some { l with zero := true }
  | _ => none

def readFlags (l : Layout) : List Char → Layout × List Char
  | c :: rest =>
    match setFlag l c with
    | some l => readFlags l rest
    | none => (l, c :: rest)
  | [] => (l, [])

/-- The name in round brackets, which may hold brackets itself. -/
def readName (depth : Nat) : List Char → Option (List Char × List Char)
  | [] => none
  | ')' :: rest =>
    if depth = 0 then some ([], rest)
    else (readName (depth - 1) rest).map fun (name, rest) => (')' :: name, rest)
  | '(' :: rest => (readName (depth + 1) rest).map fun (name, rest) => ('(' :: name, rest)
  | c :: rest => (readName depth rest).map fun (name, rest) => (c :: name, rest)

def digitsValue (ds : List Char) : Nat := ds.foldl (fun n d => n * 10 + (d.toNat - '0'.toNat)) 0

/-- Widths and precisions over this have no text. -/
def maxNumber : Nat := Nat.pow 2 31 - 1

/-- A number in the template, or the next argument after a star. -/
def readAnyNumber (a : Arguments) : List Char → Option (Int × Arguments × List Char)
  | '*' :: rest => do
    match ← a.next? with
    | (.int i, a) => return (i, a, rest)
    | (.bool b, a) => return (if b then 1 else 0, a, rest)
    | _ => none
  | cs =>
    let ds := cs.takeWhile Text.isAsciiDigit
    some (digitsValue ds, a, cs.drop ds.length)

/-- A number that is not too large. -/
def readNumber (a : Arguments) (cs : List Char) : Option (Int × Arguments × List Char) := do
  let (n, a, rest) ← readAnyNumber a cs
  if n.natAbs ≤ maxNumber then return (n, a, rest) else none

/-- Passes a letter for the size of numbers, which has no meaning. -/
def passSize : List Char → List Char
  | 'h' :: rest => rest
  | 'l' :: rest => rest
  | 'L' :: rest => rest
  | cs => cs

/-- The integer that a number is cut to. -/
def cutInteger? : Value → Option Int
  | .int i => some i
  | .bool b => some (if b then 1 else 0)
  | .real (.finite negative m e) =>
    let (num, den) := Binary64.scaled m 1 e
    let n : Int := (num / den : Nat)
    some (if negative then -n else n)
  | _ => none

def integer? : Value → Option Int
  | .int i => some i
  | .bool b => some (if b then 1 else 0)
  | _ => none

def number? : Value → Option Binary64
  | .int i => some (.ofInt i)
  | .bool b => some (.ofInt (if b then 1 else 0))
  | .real x => some x
  | _ => none

def upperAscii (c : Char) : Char := if 'a' ≤ c && c ≤ 'z' then Char.ofNat (c.toNat - 32) else c

/-- A number before it is laid out: its sign, the mark of its base, and the rest. -/
structure Numeral where
  negative : Bool
  mark : List Char
  body : List Char

/-- The numeral of an integer in a base, with at least as many digits as the precision asks. -/
def integerNumeral (l : Layout) (base : Nat) (mark : List Char) (upper : Bool) (i : Int) :
    Numeral :=
  let ds := Nat.toDigits base i.natAbs
  let ds := if upper then ds.map upperAscii else ds
  { negative := i < 0, mark := if l.alternate then mark else []
    body := List.replicate (l.precision.getD 0 - ds.length) '0' ++ ds }

/-- The numeral of a value with the given letter. -/
def realNumeral (l : Layout) (letter : Char) (x : Binary64) : Numeral :=
  let places := l.precision.getD 6
  let upper := letter == 'E' || letter == 'F' || letter == 'G'
  let special := fun (s : String) => if upper then s.toList.map upperAscii else s.toList
  match x with
  | .infinite negative => { negative, mark := [], body := special "inf" }
  | .nan => { negative := false, mark := [], body := special "nan" }
  | .finite negative m e =>
    let body :=
      if letter == 'f' || letter == 'F' then Binary64.fixedChars l.alternate m e places
      else if letter == 'e' || letter == 'E' then
        Binary64.scientificChars l.alternate letter m e places
      else Binary64.generalChars l.alternate (if upper then 'E' else 'e') m e places
    { negative, mark := [], body }

/-- Lays a numeral out: zeros fill the width between sign and digits. -/
def layNumeral (l : Layout) (n : Numeral) : List Char :=
  let sign := if n.negative then ['-'] else if l.plus then ['+'] else if l.blank then [' '] else []
  let front := sign ++ n.mark
  let room := l.width - (front.length + n.body.length)
  if l.left then
    front ++ n.body ++ List.replicate room ' '
  else if l.zero then front ++ List.replicate room '0' ++ n.body
  else List.replicate room ' ' ++ front ++ n.body

/-- Lays a text out; the precision cuts it. -/
def layText (l : Layout) (cs : List Char) : List Char :=
  let cs := match l.precision with
    | some p => cs.take p
    | none => cs
  let room := List.replicate (l.width - cs.length) ' '
  if l.left then cs ++ room else room ++ cs

def asciiOnly (cs : List Char) : List Char :=
  cs.flatMap fun c =>
    if c.toNat < 0x80 then [c]
    else if c.toNat < 0x100 then '\\' :: 'x' :: Text.hexDigits 2 c.toNat
    else if c.toNat < 0x10000 then '\\' :: 'u' :: Text.hexDigits 4 c.toNat
    else '\\' :: 'U' :: Text.hexDigits 8 c.toNat

/-- An argument as a letter says. -/
def convert? (l : Layout) (letter : Char) (v : Value) : Option (List Char) :=
  match letter with
  | 's' => some (layText l v.plainText.toList)
  | 'r' => some (layText l v.shown.toList)
  | 'a' => some (layText l (asciiOnly v.shown.toList))
  | 'c' =>
    match v with
    | .str s => if s.length = 1 then some (layText { l with precision := none } s.toList) else none
    | v =>
      (integer? v).bind fun i =>
        if 0 ≤ i && i < 0x110000 then
          some (layText { l with precision := none } [Char.ofNat i.toNat])
        else none
  | 'o' => (integer? v).map fun i => layNumeral l (integerNumeral l 8 ['0', 'o'] false i)
  | 'x' => (integer? v).map fun i => layNumeral l (integerNumeral l 16 ['0', 'x'] false i)
  | 'X' => (integer? v).map fun i => layNumeral l (integerNumeral l 16 ['0', 'X'] true i)
  | letter =>
    if letter == 'd' || letter == 'i' || letter == 'u' then
      (cutInteger? v).map fun i => layNumeral l (integerNumeral l 10 [] false i)
    else if ['e', 'E', 'f', 'F', 'g', 'G'].contains letter then
      (number? v).map fun x => layNumeral l (realNumeral l letter x)
    else none

/-- Reads a place after its percent sign and fills it. -/
def fillPlace? (a : Arguments) (cs : List Char) : Option (List Char × Arguments × List Char) := do
  let (a, cs) ← match cs with
    | '(' :: rest => do
      let (name, rest) ← readName 0 rest
      let v ← (← a.fields).lookup (String.ofList name)
      some ({ a with rest := [v] }, rest)
    | cs => some (a, cs)
  let (l, cs) := readFlags {} cs
  let (width, a, cs) ← readNumber a cs
  let l := { l with width := width.natAbs, left := l.left || width < 0 }
  let (l, a, cs) ← match cs with
    | '.' :: rest => do
      let (p, a, rest) ← readNumber a rest
      some ({ l with precision := some p.toNat }, a, rest)
    | cs => some (l, a, cs)
  match passSize cs with
  | letter :: rest => do
    let (v, a) ← a.next?
    return (← convert? l letter v, a, rest)
  | [] => none

/-- Fills the places of a template; the fuel bounds its length. Two percent signs stand for one. -/
def fillFrom? (a : Arguments) : Nat → List Char → Option (List Char)
  | 0, _ => none
  | _, [] => if a.isComplete then some [] else none
  | fuel + 1, '%' :: '%' :: rest => (fillFrom? a fuel rest).map ('%' :: ·)
  | fuel + 1, '%' :: rest => do
    let (text, a, rest) ← fillPlace? a rest
    return text ++ (← fillFrom? a fuel rest)
  | fuel + 1, c :: rest => (fillFrom? a fuel rest).map (c :: ·)

/-- The text of a message. Without arguments the template is the text. -/
def fill? (template : String) (args : List Value) : Option String :=
  if args.isEmpty then some template
  else (fillFrom? (.ofList args) (template.length + 1) template.toList).map String.ofList

end ClauseAudit.Json.Template
