import ClauseAudit.Text.Lines

/-!
# Paths

A path is a list of parts, perhaps below a root. Empty parts and single dots are left out when a
path is read; double dots stay, because they mean something only among real directories.
-/

namespace ClauseAudit.Files

structure Path where
  /-- Nothing for relative paths, and one slash or two for absolute ones. -/
  root : String
  parts : List String
  deriving DecidableEq, Repr

namespace Path

def splitSlashes (cs : List Char) : List String :=
  (cs.splitOn '/').map String.ofList

/-- The root that a text begins with; exactly two slashes are a root of their own. -/
def rootOf : List Char → String
  | '/' :: '/' :: '/' :: _ => "/"
  | '/' :: '/' :: _ => "//"
  | '/' :: _ => "/"
  | _ => ""

def ofText (s : String) : Path :=
  { root := rootOf s.toList
    parts := (splitSlashes s.toList).filter fun p => !(p.isEmpty || p == ".") }

def isAbsolute (p : Path) : Bool := !p.root.isEmpty

def text (p : Path) : String :=
  if p.root.isEmpty && p.parts.isEmpty then "." else p.root ++ String.intercalate "/" p.parts

/-- The second path seen from the first; absolute paths stay as they are. -/
def join (p q : Path) : Path :=
  if q.isAbsolute then q else { p with parts := p.parts ++ q.parts }

def child (p : Path) (name : String) : Path := { p with parts := p.parts ++ [name] }

def parent (p : Path) : Path := { p with parts := p.parts.dropLast }

def name (p : Path) : String := p.parts.getLast?.getD ""

/-- The ending of the name from its last dot on, unless the dot is the first or last character. -/
def suffix (p : Path) : String :=
  let cs := p.name.toList
  let ending := (cs.reverse.takeWhile (· != '.')).reverse
  if ending.isEmpty || cs.length ≤ ending.length + 1 then ""
  else String.ofList ('.' :: ending)

/-- Parts without dots: double dots go one part up. -/
def normalParts (parts : List String) : List String :=
  (parts.foldl (fun done p => if p == ".." then done.drop 1 else p :: done) []).reverse

/-- The absolute path without double dots, seen from a directory. -/
def resolve (directory p : Path) : Path :=
  { root := "/", parts := normalParts (directory.join p).parts }

/-- Paths in the order of their parts. -/
def le (p q : Path) : Bool :=
  let key := fun x : Path =>
    (if x.root.isEmpty then [] else [x.root.toList]) ++ x.parts.map String.toList
  !(key q < key p : Bool)

end Path

end ClauseAudit.Files
