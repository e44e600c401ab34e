import ClauseAudit.Files.Tree
import ClauseAudit.Table.Csv.Request
import ClauseAudit.Table.Records
import ClauseAudit.Text.Case

/-!
# Tables in files

The format of a table's file is given, or taken from the ending of its name; without either it is
comma-separated values.
-/

namespace ClauseAudit.Table

inductive Format where
  | csv
  | json
  | lines
  deriving DecidableEq, Repr

inductive WriteFault where
  | file (fault : Files.Fault)
  | format (name : String)
  | request (fault : Csv.RequestFault)
  | repeatedColumn
  deriving DecidableEq, Repr

def WriteFault.message : WriteFault → String
  | file fault => fault.message
  | format name => "Unsupported frame format: " ++ name
  | request fault => fault.message
  | repeatedColumn => "DataFrame columns must be unique for orient='records'."

/-- The name of the format for a path, in lower case. -/
def formatName (given : Option String) (path : Files.Path) : String :=
  let ending := String.ofList (path.suffix.toList.dropWhile (· == '.'))
  let name := (given.filter (!·.isEmpty)).getD (if ending.isEmpty then "csv" else ending)
  Text.lower name

def Format.ofName? : String → Option Format
  | "csv" => some .csv
  | "json" => some .json
  | "ndjson" => some .lines
  | _ => none

def textIn (t : Table) (format : Format) (options : Json.Fields) (jsonLines : Bool) :
    Except WriteFault String :=
  match format with
  | .csv => (Csv.requestedText options t).mapError .request
  | .json =>
    if t.columns.eraseDups.length != t.columns.length then .error .repeatedColumn
    else .ok (if jsonLines then t.linesText else t.jsonText)
  | .lines =>
    if t.columns.eraseDups.length != t.columns.length then .error .repeatedColumn
    else .ok t.linesText

def write (t : Table) (tree : Files.Tree) (path : Files.Path) (format : Option String)
    (options : Json.Fields) (jsonLines : Bool) : Except WriteFault Files.Tree := do
  let tree ← (tree.makeAll path.parent).mapError .file
  let name := formatName format path
  let some format := Format.ofName? name | .error (.format name)
  let text ← t.textIn format options jsonLines
  (tree.write path text.toUTF8.toList).mapError .file

end ClauseAudit.Table
