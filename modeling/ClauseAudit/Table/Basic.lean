import ClauseAudit.Json.PlainText

/-!
# Tables

A table has named columns and rows of cells. The values of a column decide how its cells are
written: integers with gaps between them become numbers with a fraction.
-/

namespace ClauseAudit

structure Table where
  columns : List String
  rows : List (List Json.Value)
  deriving Repr

namespace Table

/-- Rows that do not fit the columns. -/
structure WidthFault where
  columns : Nat
  widest : Nat
  deriving DecidableEq, Repr

def WidthFault.message (f : WidthFault) : String :=
  Text.decimal f.columns ++ " columns passed, passed data had " ++ Text.decimal f.widest
    ++ " columns"

/-- The table with the given rows. The widest row has a cell for every column; in others the last
cells may be missing. -/
def ofRows (columns : List String) (rows : List (List Json.Value)) : Except WidthFault Table :=
  let widest := rows.foldl (fun n r => max n r.length) 0
  if rows.isEmpty || widest == columns.length then
    .ok { columns, rows := rows.map fun r => r ++ List.replicate (widest - r.length) .null }
  else .error ⟨columns.length, widest⟩

/-- Integers in a column that has gaps are written as numbers with a fraction. -/
def hasGappedIntegers (cells : List Json.Value) : Bool :=
  cells.any (·.isNull) && cells.any (fun v => !v.isNull) && cells.all fun
    | .null | .int _ | .real _ => true
    | _ => false

def widen : Json.Value → Json.Value
  | .int i => .real (.ofInt i)
  | v => v

/-- The cells of a column in their final form. -/
def settleColumn (cells : List Json.Value) : List Json.Value :=
  let isReal := fun v : Json.Value => match v with | .real _ => true | _ => false
  let isNumber := fun v : Json.Value => match v with | .real _ | .int _ => true | _ => false
  if hasGappedIntegers cells || (cells.any isReal && cells.all isNumber) then cells.map widen
  else cells

def column (t : Table) (i : Nat) : List Json.Value := t.rows.map fun r => (r[i]?).getD .null

/-- The table with the given cells in its columns. -/
def withColumns (t : Table) (cols : List (List Json.Value)) : Table :=
  { t with
    rows := (List.range t.rows.length).map fun r => cols.map fun col => (col[r]?).getD .null }

/-- The cells of the columns in their final form. -/
def settledColumns (t : Table) : List (List Json.Value) :=
  (List.range t.columns.length).map fun i => settleColumn (t.column i)

def settled (t : Table) : Table := t.withColumns t.settledColumns

def select (t : Table) (names : List String) : Table :=
  { columns := names
    rows := t.rows.map fun r => names.map fun n => ((t.columns.zip r).lookup n).getD .null }

end Table

end ClauseAudit
