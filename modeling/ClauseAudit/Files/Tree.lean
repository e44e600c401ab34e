import ClauseAudit.Files.Path
import ClauseAudit.Text.Quoted
import ClauseAudit.Text.Utf8

/-!
# File trees

A tree holds directories and files at absolute places. Paths are followed part by part: every part
before the last has to be a directory that exists.
-/

namespace ClauseAudit.Files

/-- Why a path cannot be used. -/
inductive Cause where
  | missing
  | taken
  | notDirectory
  | isDirectory
  deriving DecidableEq, Repr

structure Fault where
  cause : Cause
  path : Path
  deriving DecidableEq, Repr

def Cause.message : Cause → String
  | missing => "[Errno 2] No such file or directory"
  | taken => "[Errno 17] File exists"
  | notDirectory => "[Errno 20] Not a directory"
  | isDirectory => "[Errno 21] Is a directory"

def Fault.message (f : Fault) : String := f.cause.message ++ ": " ++ Text.quoted f.path.text

inductive Node where
  | file (bytes : List UInt8)
  | directory
  deriving DecidableEq, Repr

/-- A place is the list of names from the root. -/
abbrev Place := List String

structure Tree where
  /-- The directory that relative paths start from. -/
  current : Place
  /-- All places below the root that are taken. -/
  nodes : List (Place × Node)
  deriving Repr

namespace Tree

/-- What stands at a place. -/
def at? (t : Tree) (place : Place) : Option Node :=
  if place.isEmpty then some .directory else (t.nodes.find? (·.1 == place)).map (·.2)

def put (t : Tree) (place : Place) (node : Node) : Tree :=
  { t with nodes := t.nodes.filter (·.1 != place) ++ [(place, node)] }

/-- Follows parts from a place. The place of the last part need not be taken. -/
def follow (t : Tree) (place : Place) : List String → Except Cause Place
  | [] => .ok place
  | part :: rest =>
    match t.at? place with
    | none => .error .missing
    | some (.file _) => .error .notDirectory
    | some .directory => t.follow (if part == ".." then place.dropLast else place ++ [part]) rest

/-- The place that a path leads to. -/
def place (t : Tree) (p : Path) : Except Cause Place :=
  t.follow (if p.isAbsolute then [] else t.current) p.parts

/-- What a path leads to, if it leads anywhere. -/
def node? (t : Tree) (p : Path) : Option Node :=
  match t.place p with
  | .ok place => t.at? place
  | .error _ => none

def isDirectory (t : Tree) (p : Path) : Bool :=
  match t.node? p with
  | some .directory => true
  | _ => false

def isFile (t : Tree) (p : Path) : Bool :=
  match t.node? p with
  | some (.file _) => true
  | _ => false

def exists? (t : Tree) (p : Path) : Bool := (t.node? p).isSome

def makeDirectory (t : Tree) (p : Path) : Except Cause Tree := do
  let place ← t.place p
  if (t.at? place).isSome then .error .taken else return t.put place .directory

def ensureDirectory (t : Tree) (p : Path) : Except Fault Tree :=
  match t.makeDirectory p with
  | .ok t => .ok t
  | .error cause => if t.isDirectory p then .ok t else .error ⟨cause, p⟩

/-- Makes a directory and those it lies in, unless they are there. The number bounds the parts of
the path. -/
def ensureDirectories (t : Tree) (p : Path) : Nat → Except Fault Tree
  | 0 => t.ensureDirectory p
  | n + 1 =>
    match t.makeDirectory p with
    | .ok t => .ok t
    | .error .missing =>
      if p.parts.isEmpty then .error ⟨.missing, p⟩
      else do (← t.ensureDirectories p.parent n).ensureDirectory p
    | .error cause => if t.isDirectory p then .ok t else .error ⟨cause, p⟩

/-- Makes a directory with all above it, unless they are there. -/
def makeAll (t : Tree) (p : Path) : Except Fault Tree := t.ensureDirectories p p.parts.length

def read (t : Tree) (p : Path) : Except Fault (List UInt8) :=
  match t.place p with
  | .error cause => .error ⟨cause, p⟩
  | .ok place =>
    match t.at? place with
    | none => .error ⟨.missing, p⟩
    | some .directory => .error ⟨.isDirectory, p⟩
    | some (.file bytes) => .ok bytes

def write (t : Tree) (p : Path) (bytes : List UInt8) : Except Fault Tree :=
  match t.place p with
  | .error cause => .error ⟨cause, p⟩
  | .ok place =>
    match t.at? place with
    | some .directory => .error ⟨.isDirectory, p⟩
    | _ => .ok (t.put place (.file bytes))

/-- Writes a file, making the directories it lies in. They stay if the file cannot be written. -/
def store (t : Tree) (p : Path) (bytes : List UInt8) : Tree × Option Fault :=
  match t.makeAll p.parent with
  | .error fault => (t, some fault)
  | .ok t =>
    match t.write p bytes with
    | .error fault => (t, some fault)
    | .ok t => (t, none)

def remove (t : Tree) (p : Path) : Except Fault Tree := do
  let _ ← t.read p
  match t.place p with
  | .ok place => return { t with nodes := t.nodes.filter (·.1 != place) }
  | .error cause => .error ⟨cause, p⟩

/-- The names in a directory and what they stand for. -/
def entries (t : Tree) (place : Place) : List (String × Node) :=
  t.nodes.filterMap fun n =>
    if n.1.length = place.length + 1 && place.isPrefixOf n.1 then
      n.1.getLast?.map fun name => (name, n.2)
    else none

/-- All files below a place, with the names that lead to them. -/
def filesBelow (t : Tree) (place : Place) : List (List String × List UInt8) :=
  t.nodes.filterMap fun n =>
    match n.2 with
    | .file bytes => if place.isPrefixOf n.1 then some (n.1.drop place.length, bytes) else none
    | .directory => none

end Tree

end ClauseAudit.Files
