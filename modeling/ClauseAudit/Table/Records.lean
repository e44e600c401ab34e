import ClauseAudit.Json.Printer
import ClauseAudit.Table.Basic

/-!
# Tables as JSON records

Every row is an object with the columns as fields. The objects form an array, or stand on lines of
their own; no rows at all give one empty line.
-/

namespace ClauseAudit.Table

def records (t : Table) : List Json.Value :=
  t.settled.rows.map fun r => .obj (t.columns.zip r)

def jsonText (t : Table) : String := (Json.Value.arr t.records).text .record

def linesText (t : Table) : String :=
  String.intercalate "\n" (t.records.map (·.text .record)) ++ "\n"

end ClauseAudit.Table
