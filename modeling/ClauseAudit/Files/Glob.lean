import ClauseAudit.Files.Tree

/-!
# Patterns for file names

In a pattern for names a star stands for any characters, a question mark for one, and brackets for
one of a set or, after an exclamation mark, for one outside it. A pattern for paths has such a
pattern for every part; two stars stand for any number of directories.
-/

namespace ClauseAudit.Files.Glob

structure CharSet where
  negated : Bool
  ranges : List (Char × Char)
  deriving DecidableEq, Repr

inductive Token where
  | star
  | one
  | set (s : CharSet)
  | char (c : Char)
  deriving DecidableEq, Repr

def CharSet.holds (s : CharSet) (c : Char) : Bool :=
  s.ranges.any (fun r => r.1 ≤ c && c ≤ r.2) != s.negated

/-- Splits the inside of brackets at the hyphens of ranges. A hyphen that begins the text, or that
stands directly after the end of a range, is a plain character. -/
def splitRanges (piece : List Char) : Nat → List Char → List (List Char)
  | _, [] => [piece.reverse]
  | 0, '-' :: rest => piece.reverse :: splitRanges [] 2 rest
  | wait, c :: rest => splitRanges (c :: piece) (wait - 1) rest

/-- A hyphen at the end is a plain character. -/
def closeRanges (pieces : List (List Char)) : List (List Char) :=
  match pieces.reverse with
  | [] :: last :: before => ((last ++ ['-']) :: before).reverse
  | _ => pieces

/-- Joins two pieces whose range has no characters. -/
def joinEmpty (piece : List Char) : List (List Char) → List (List Char)
  | [] => [piece]
  | next :: rest =>
    match piece.getLast?, next.head? with
    | some lo, some hi =>
      if hi < lo then (piece.dropLast ++ next.drop 1) :: rest else piece :: next :: rest
    | _, _ => piece :: next :: rest

/-- The single characters and ranges of pieces that are joined by hyphens. -/
def rangesOf : List (List Char) → List (Char × Char)
  | [] => []
  | [piece] => piece.map fun c => (c, c)
  | piece :: next :: rest =>
    let bounds := match piece.getLast?, next.head? with
      | some lo, some hi => [(lo, hi)]
      | _, _ => []
    piece.dropLast.map (fun c => (c, c)) ++ bounds ++ rangesOf (next :: rest)

def setOf (inside : List Char) : CharSet :=
  let negated := inside.head? == some '!'
  let wait := if negated then 2 else 1
  let pieces := (closeRanges (splitRanges [] wait inside)).foldr joinEmpty []
  let pieces := match pieces with
    | first :: rest => (if negated then first.drop 1 else first) :: rest
    | [] => []
  { negated, ranges := rangesOf pieces }

/-- The inside of brackets and what follows. A bracket that closes directly is part of the
inside. -/
def bracket? (cs : List Char) : Option (List Char × List Char) :=
  let front := match cs with
    | '!' :: ']' :: _ => 2
    | '!' :: _ => 1
    | ']' :: _ => 1
    | _ => 0
  let inside := cs.take front ++ (cs.drop front).takeWhile (· != ']')
  match cs.drop inside.length with
  | ']' :: rest => some (inside, rest)
  | _ => none

/-- The tokens of a pattern for a name; the fuel bounds its length. -/
def tokens : Nat → List Char → List Token
  | 0, _ => []
  | _, [] => []
  | fuel + 1, c :: rest =>
    if c = '*' then .star :: tokens fuel rest
    else if c = '?' then .one :: tokens fuel rest
    else if c = '[' then
      match bracket? rest with
      | some (inside, rest) => .set (setOf inside) :: tokens fuel rest
      | none => .char '[' :: tokens fuel rest
    else .char c :: tokens fuel rest

def endings : List Char → List (List Char)
  | [] => [[]]
  | c :: rest => (c :: rest) :: endings rest

/-- Whether tokens stand for a whole name. -/
def matchTokens : List Token → List Char → Bool
  | [], cs => cs.isEmpty
  | .star :: ts, cs => (endings cs).any (matchTokens ts)
  | .one :: ts, _ :: cs => matchTokens ts cs
  | .set s :: ts, c :: cs => s.holds c && matchTokens ts cs
  | .char d :: ts, c :: cs => c == d && matchTokens ts cs
  | _ :: _, [] => false

def matchesName (pattern name : String) : Bool :=
  matchTokens (tokens pattern.length pattern.toList) name.toList

/-- Why a pattern for paths is refused. -/
inductive Fault where
  | empty
  | absolute
  | noParts
  /-- Nothing but dots and slashes, with a slash at the end. -/
  | noPartsBeforeSlash
  | mixedDoubleStar
  deriving DecidableEq, Repr

def Fault.message : Fault → String
  | empty => "Unacceptable pattern: ''"
  | absolute => "Non-relative patterns are unsupported"
  | noParts => "tuple index out of range"
  | noPartsBeforeSlash => "'_TerminatingSelector' object has no attribute 'select_from'"
  | mixedDoubleStar => "Invalid pattern: '**' can only be an entire path component"

/-- A pattern for one part of a path. -/
inductive Part where
  | directories
  | up
  | wild (pattern : String)
  | exact (name : String)
  deriving DecidableEq, Repr

def Part.ofText (s : String) : Except Fault Part :=
  if s == "**" then .ok .directories
  else if s == ".." then .ok .up
  else if Text.hasInfix ['*', '*'] s.toList then .error .mixedDoubleStar
  else if s.toList.any fun c => c == '*' || c == '?' || c == '[' then .ok (.wild s)
  else .ok (.exact s)

/-- The parts of a pattern, and whether only directories count. -/
def parse (pattern : String) : Except Fault (List Part × Bool) := do
  if pattern.isEmpty then .error .empty
  let p := Path.ofText pattern
  if p.isAbsolute then .error .absolute
  let slash := pattern.toList.getLast? == some '/'
  if p.parts.isEmpty then .error (if slash then .noPartsBeforeSlash else .noParts)
  return (← p.parts.mapM Part.ofText, slash)

/-- All directories at and below a path; the number bounds the depth. -/
def directoriesFrom (t : Tree) : Nat → Path → List Path
  | 0, p => [p]
  | n + 1, p =>
    match t.place p with
    | .ok place => p :: (t.entries place).flatMap fun e =>
        match e.2 with
        | .directory => directoriesFrom t n (p.child e.1)
        | .file _ => []
    | .error _ => [p]

/-- The paths that the rest of a pattern stands for, seen from a path. -/
def select (t : Tree) (depth : Nat) : List Part → Bool → Path → List Path
  | [], _, p => [p]
  | part :: rest, slash, p =>
    let inner := slash || !rest.isEmpty
    match part with
    | .up => select t depth rest slash (p.child "..")
    | .exact name =>
      let q := p.child name
      if if inner then t.isDirectory q else t.exists? q then select t depth rest slash q else []
    | .wild pattern =>
      match t.place p with
      | .error _ => []
      | .ok place =>
        (t.entries place).flatMap fun e =>
          let isDirectory := match e.2 with
            | .directory => true
            | .file _ => false
          if (isDirectory || !inner) && matchesName pattern e.1 then
            select t depth rest slash (p.child e.1)
          else []
    | .directories =>
      ((directoriesFrom t depth p).flatMap (select t depth rest slash)).eraseDups

/-- The files in a directory that a pattern stands for, in the order of their paths. -/
def files (t : Tree) (directory : Path) (pattern : String) : Except Fault (List Path) := do
  let (parts, slash) ← parse pattern
  let found := if t.isDirectory directory then select t t.nodes.length parts slash directory else []
  return (found.filter t.isFile).mergeSort Path.le

end ClauseAudit.Files.Glob
