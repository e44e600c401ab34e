import ClauseAudit.Text.Integer
import ClauseAudit.Text.Utf8
import ClauseAudit.Toml.Document
import ClauseAudit.Toml.Scalar

/-!
# Reading TOML

Every function reads what stands at the front of a text and gives the rest. Reading ends where the
text is not TOML, and at an integer with too many digits. Carriage returns count only before line
feeds.
-/

namespace ClauseAudit.Toml

/-- Why a text is not read. -/
inductive Fault where
  | malformed
  | longInteger (digits : Nat)
  deriving DecidableEq, Repr

def orMalformed : Option α → Except Fault α
  | some a => .ok a
  | none => .error .malformed

def isSpace (c : Char) : Bool := c == ' ' || c == '\t'

/-- White space between the lines of an array. -/
def isLayout (c : Char) : Bool := isSpace c || c == '\n'

def skipSpace (cs : List Char) : List Char := cs.dropWhile isSpace

def isControl (c : Char) : Bool := (c.val < 0x20 && c != '\t') || c.val == 0x7F

def isBareKey (c : Char) : Bool :=
  Text.isAsciiLetter c || Text.isAsciiDigit c || c == '-' || c == '_'

def skipComment? : List Char → Option (List Char)
  | '#' :: rest =>
    let body := rest.takeWhile (· != '\n')
    if body.any isControl then none else some (rest.drop body.length)
  | cs => some cs

/-- Passes white space, line ends and comments; the fuel bounds their number. -/
def skipLines? : Nat → List Char → Option (List Char)
  | 0, cs => some cs
  | fuel + 1, cs =>
    match cs.dropWhile isLayout with
    | '#' :: rest => do skipLines? fuel (← skipComment? ('#' :: rest))
    | cs => some cs

/-- Escapes of one letter. -/
def simpleEscape? : Char → Option Char
  | 'b' => some (Char.ofNat 8)
  | 't' => some '\t'
  | 'n' => some '\n'
  | 'f' => some (Char.ofNat 12)
  | 'r' => some '\r'
  | '"' => some '"'
  | '\\' => some '\\'
  | _ => none

/-- A character by its code. -/
def codeEscape? (width : Nat) (cs : List Char) : Option (Char × List Char) :=
  let ds := cs.take width
  let n := inBase 16 ds
  if ds.length = width && ds.all (fun c => (Text.hexValue? c).isSome)
    && (n < 0xD800 || (0xDFFF < n && n < 0x110000)) then some (Char.ofNat n, cs.drop width)
  else none

/-- An escape after its backslash. In a text of several lines a backslash at the end of a line
passes all white space after it. -/
def escape? (multiline : Bool) : List Char → Option (List Char × List Char)
  | 'u' :: rest => (codeEscape? 4 rest).map fun (c, rest) => ([c], rest)
  | 'U' :: rest => (codeEscape? 8 rest).map fun (c, rest) => ([c], rest)
  | c :: rest =>
    if multiline && isLayout c then
      match if c == '\n' then '\n' :: rest else skipSpace rest with
      | [] => some ([], [])
      | '\n' :: rest => some ([], rest.dropWhile isLayout)
      | _ => none
    else (simpleEscape? c).map fun d => ([d], rest)
  | [] => none

/-- A text between double quotes, from after the opening ones; the fuel bounds its length. -/
def basicString? (multiline : Bool) : Nat → List Char → Option (List Char × List Char)
  | 0, _ => none
  | _, [] => none
  | fuel + 1, c :: rest =>
    if c == '"' then
      if !multiline then some ([], rest)
      else match rest with
        | '"' :: '"' :: rest => some ([], rest)
        | rest => (basicString? multiline fuel rest).map fun (s, rest) => ('"' :: s, rest)
    else if c == '\\' then do
      let (part, rest) ← escape? multiline rest
      let (s, rest) ← basicString? multiline fuel rest
      return (part ++ s, rest)
    else if isControl c && !(multiline && c == '\n') then none
    else (basicString? multiline fuel rest).map fun (s, rest) => (c :: s, rest)

/-- A text between single quotes on one line, from after the opening one. -/
def literalString? (cs : List Char) : Option (List Char × List Char) :=
  let body := cs.takeWhile (· != '\'')
  match cs.drop body.length with
  | _ :: rest => if body.any isControl then none else some (body, rest)
  | [] => none

/-- A text up to three single quotes. -/
def literalLines? : List Char → Option (List Char × List Char)
  | [] => none
  | '\'' :: '\'' :: '\'' :: rest => some ([], rest)
  | c :: rest =>
    if isControl c && c != '\n' then none
    else (literalLines? rest).map fun (s, rest) => (c :: s, rest)

/-- One or two quotes more before the closing ones belong to the text. -/
def moreQuotes (quote : Char) (s rest : List Char) : List Char × List Char :=
  match rest with
  | a :: b :: more =>
    if a == quote && b == quote then (s ++ [quote, quote], more)
    else if a == quote then (s ++ [quote], b :: more)
    else (s, rest)
  | [a] => if a == quote then (s ++ [quote], []) else (s, rest)
  | [] => (s, rest)

def dropLineEnd : List Char → List Char
  | '\n' :: rest => rest
  | cs => cs

def string? : List Char → Option (List Char × List Char)
  | '"' :: '"' :: '"' :: rest =>
    (basicString? true (rest.length + 1) (dropLineEnd rest)).map fun (s, rest) =>
      moreQuotes '"' s rest
  | '"' :: rest => basicString? false (rest.length + 1) rest
  | '\'' :: '\'' :: '\'' :: rest =>
    (literalLines? (dropLineEnd rest)).map fun (s, rest) => moreQuotes '\'' s rest
  | '\'' :: rest => literalString? rest
  | _ => none

def keyPart? : List Char → Option (String × List Char)
  | '\'' :: rest => (literalString? rest).map fun (s, rest) => (String.ofList s, rest)
  | '"' :: rest =>
    (basicString? false (rest.length + 1) rest).map fun (s, rest) => (String.ofList s, rest)
  | cs =>
    let s := cs.takeWhile isBareKey
    if s.isEmpty then none else some (String.ofList s, cs.drop s.length)

/-- A key with its dots; the fuel bounds its parts. -/
def key? : Nat → List Char → Option (Key × List Char)
  | 0, _ => none
  | fuel + 1, cs => do
    let (part, rest) ← keyPart? cs
    match skipSpace rest with
    | '.' :: rest => do
      let (more, rest) ← key? fuel (skipSpace rest)
      return (part :: more, rest)
    | rest => return ([part], rest)

/-- A key up to the value after its equals sign. -/
def keyOfPair? (cs : List Char) : Option (Key × List Char) := do
  let (key, rest) ← key? (cs.length + 1) cs
  match rest with
  | '=' :: rest => return (key, skipSpace rest)
  | _ => none

/-- The digits of a decimal integer that has too many. -/
def excess? (cs : List Char) : Value → Option Nat
  | .int i => if (based? cs).isSome then none else Text.excess? Text.maxIntegerDigits i
  | _ => none

def readScalar (cs : List Char) : Except Fault (Value × List Char) := do
  let (v, rest) ← orMalformed (scalar? cs)
  match excess? cs v with
  | some digits => .error (.longInteger digits)
  | none => return (v, rest)

mutual

/-- A value; the fuel bounds the depth and length of what it holds. -/
def readValue : Nat → List Char → Except Fault (Value × List Char)
  | 0, _ => .error .malformed
  | fuel + 1, cs =>
    match cs with
    | '"' :: _ => orMalformed <| (string? cs).map fun (s, rest) => (.str (String.ofList s), rest)
    | '\'' :: _ => orMalformed <| (string? cs).map fun (s, rest) => (.str (String.ofList s), rest)
    | 't' :: 'r' :: 'u' :: 'e' :: rest => .ok (.bool true, rest)
    | 'f' :: 'a' :: 'l' :: 's' :: 'e' :: rest => .ok (.bool false, rest)
    | '[' :: rest => do
      let (items, rest) ← readItems fuel (← orMalformed (skipLines? rest.length rest))
      return (.arr items, rest)
    | '\x7b' :: rest =>
      match skipSpace rest with
      | '\x7d' :: rest => .ok (.table [], rest)
      | rest => do
        let (fields, rest) ← readPairs fuel [] [] rest
        return (.table fields, rest)
    | cs => readScalar cs

/-- The items of an array from the next one on, up to its end. -/
def readItems : Nat → List Char → Except Fault (List Value × List Char)
  | 0, _ => .error .malformed
  | fuel + 1, cs =>
    match cs with
    | ']' :: rest => .ok ([], rest)
    | cs => do
      let (v, rest) ← readValue fuel cs
      match ← orMalformed (skipLines? rest.length rest) with
      | ']' :: rest => return ([v], rest)
      | ',' :: rest => do
        let (vs, rest) ← readItems fuel (← orMalformed (skipLines? rest.length rest))
        return (v :: vs, rest)
      | _ => .error .malformed

/-- The fields of an inline table from the next one on, up to its end. Arrays and tables among
the fields before are frozen. -/
def readPairs : Nat → Fields → List Key → List Char → Except Fault (Fields × List Char)
  | 0, _, _, _ => .error .malformed
  | fuel + 1, fields, frozen, cs => do
    let (key, rest) ← orMalformed (keyOfPair? cs)
    let (v, rest) ← readValue fuel rest
    if frozen.any (·.isPrefixOf key) then .error .malformed
    let add := addField (key.getLast?.getD "") v
    let fields ← orMalformed (updateAt false add key.dropLast fields)
    match skipSpace rest with
    | '\x7d' :: rest => return (fields, rest)
    | ',' :: rest =>
      readPairs fuel fields (if v.isContainer then key :: frozen else frozen) (skipSpace rest)
    | _ => .error .malformed

end

/-- Reads a statement, if the line holds one. -/
def readStatement (d : Document) (cs : List Char) : Except Fault (Document × List Char) :=
  match cs with
  | '[' :: '[' :: rest => do
    let (key, rest) ← orMalformed (key? (rest.length + 1) (skipSpace rest))
    let d ← orMalformed (d.openItem? key)
    match rest with
    | ']' :: ']' :: rest => return (d, rest)
    | _ => .error .malformed
  | '[' :: rest => do
    let (key, rest) ← orMalformed (key? (rest.length + 1) (skipSpace rest))
    let d ← orMalformed (d.openTable? key)
    match rest with
    | ']' :: rest => return (d, rest)
    | _ => .error .malformed
  | '#' :: _ => .ok (d, cs)
  | cs => do
    let (key, rest) ← orMalformed (keyOfPair? cs)
    let (v, rest) ← readValue (2 * rest.length + 2) rest
    return (← orMalformed (d.assign? key v), rest)

/-- Reads lines; the fuel bounds their number. -/
def readLines (d : Document) : Nat → List Char → Except Fault Document
  | 0, _ => .error .malformed
  | fuel + 1, cs =>
    match skipSpace cs with
    | [] => .ok d
    | '\n' :: rest => readLines d fuel rest
    | cs => do
      let (d, rest) ← readStatement d cs
      match ← orMalformed (skipComment? (skipSpace rest)) with
      | [] => return d
      | '\n' :: rest => readLines d fuel rest
      | _ => .error .malformed

/-- Line feeds in the place of carriage returns with line feeds. -/
def joinReturns : List Char → List Char
  | '\r' :: '\n' :: rest => '\n' :: joinReturns rest
  | c :: rest => c :: joinReturns rest
  | [] => []

/-- The fields of a document. -/
def read (text : String) : Except Fault Fields :=
  let cs := joinReturns text.toList
  (readLines {} (cs.length + 1) cs).map (·.fields)

end ClauseAudit.Toml
