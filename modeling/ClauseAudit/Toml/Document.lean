import ClauseAudit.Toml.Value

/-!
# TOML documents

A document grows by its statements. Marks keep statements from changing what was finished before:
an array or table written as a value is frozen with all below it, and a table that has its own
header or was opened by a dotted key cannot be opened again.
-/

namespace ClauseAudit.Toml

/-- Replaces the value of a field that is there. -/
def replaceField (fields : Fields) (name : String) (v : Value) : Fields :=
  fields.map fun f => if f.1 == name then (f.1, v) else f

/-- Changes the table behind a key, making tables on the way. An array leads to its last item
where arrays may be entered. -/
def updateAt (enterArrays : Bool) (change : Fields → Option Fields) :
    Key → Fields → Option Fields
  | [], fields => change fields
  | k :: ks, fields =>
    match fields.lookup k with
    | none => (updateAt enterArrays change ks []).map fun t => fields ++ [(k, .table t)]
    | some (.table t) =>
      (updateAt enterArrays change ks t).map fun t => replaceField fields k (.table t)
    | some (.arr items) =>
      match enterArrays, items.getLast? with
      | true, some (.table t) => (updateAt enterArrays change ks t).map fun t =>
          replaceField fields k (.arr (items.dropLast ++ [.table t]))
      | _, _ => none
    | some _ => none

def addField (name : String) (v : Value) (fields : Fields) : Option Fields :=
  if fields.any (·.1 == name) then none else some (fields ++ [(name, v)])

/-- Adds an empty table to an array of tables. -/
def addTable (name : String) (fields : Fields) : Option Fields :=
  match fields.lookup name with
  | none => some (fields ++ [(name, .arr [.table []])])
  | some (.arr items) => some (replaceField fields name (.arr (items ++ [.table []])))
  | some _ => none

/-- Keys that are not to be changed. -/
structure Marks where
  frozen : List Key := []
  opened : List Key := []
  deriving DecidableEq, Repr

namespace Marks

def isFrozen (m : Marks) (key : Key) : Bool := m.frozen.any (·.isPrefixOf key)

def isOpened (m : Marks) (key : Key) : Bool := m.opened.contains key

def clear (m : Marks) (key : Key) : Marks :=
  { frozen := m.frozen.filter fun k => !key.isPrefixOf k
    opened := m.opened.filter fun k => !key.isPrefixOf k }

end Marks

structure Document where
  fields : Fields := []
  marks : Marks := {}
  /-- Tables opened by dotted keys since the last header. -/
  pending : List Key := []
  /-- The table of the last header. -/
  header : Key := []

namespace Document

/-- What dotted keys have opened is closed by the next header. -/
def settle (d : Document) : Document :=
  { d with marks := { d.marks with opened := d.pending ++ d.marks.opened }, pending := [] }

def openTable? (d : Document) (key : Key) : Option Document :=
  let d := d.settle
  if d.marks.isOpened key || d.marks.isFrozen key then none
  else (updateAt true some key d.fields).map fun fields =>
    { d with fields, marks := { d.marks with opened := key :: d.marks.opened }, header := key }

def openItem? (d : Document) (key : Key) : Option Document :=
  let d := d.settle
  if d.marks.isFrozen key then none
  else
    let marks := d.marks.clear key
    (updateAt true (addTable (key.getLast?.getD "")) key.dropLast d.fields).map fun fields =>
      { d with fields, marks := { marks with opened := key :: marks.opened }, header := key }

def beginnings (key : Key) : List Key := (List.range (key.length - 1)).map fun i => key.take (i + 1)

/-- Gives a key a value in the current table. -/
def assign? (d : Document) (key : Key) (v : Value) : Option Document :=
  let above := (beginnings key).map (d.header ++ ·)
  let parent := d.header ++ key.dropLast
  if above.any d.marks.isOpened || d.marks.isFrozen parent then none
  else (updateAt true (addField (key.getLast?.getD "") v) parent d.fields).map fun fields =>
    { d with
      fields
      pending := above ++ d.pending
      marks := if v.isContainer then { d.marks with frozen := (d.header ++ key) :: d.marks.frozen }
        else d.marks }

end Document

end ClauseAudit.Toml
