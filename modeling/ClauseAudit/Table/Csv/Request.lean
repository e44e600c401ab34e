import ClauseAudit.Json.Template
import ClauseAudit.Table.Csv

/-!
# Requests for comma-separated values

A request names the columns to write and how they are written, option by option. `requestedText`
is the text that a table has under the options, or the first thing that is wrong with the two.
-/

namespace ClauseAudit.Table.Csv

open Json (Value)

/-- Why a request for a table has no text. -/
inductive RequestFault where
  | indexGiven
  | pathGiven
  | unknownOption (name : String)
  /-- Columns that the table does not have, and whether they are all that are asked for. -/
  | absentColumns (names : List String) (all : Bool)
  | notOneCharacter (option : String)
  | notText (option : String) (optional : Bool) (kind : String)
  | notInteger (option : String)
  | unknownQuoting
  | noQuote
  | aliases (columns names : Nat)
  | unusedNumber
  | line (fault : Fault)
  deriving DecidableEq, Repr

def Fault.message : Fault → String
  | escapeNeeded => "need to escape, but no escapechar set"
  | emptyAlone => "single empty field record must be quoted"

namespace RequestFault

def message : RequestFault → String
  | indexGiven =>
    "pandas.core.generic.NDFrame.to_csv() got multiple values for keyword argument 'index'"
  | pathGiven => "NDFrame.to_csv() got multiple values for argument 'path_or_buf'"
  | unknownOption name =>
    "NDFrame.to_csv() got an unexpected keyword argument " ++ Text.quoted name
  | absentColumns names all =>
    let shown := (Value.arr (names.map .str)).shown
    Text.quoted
      (if all then "None of [Index(" ++ shown ++ ", dtype='object')] are in the [columns]"
        else shown ++ " not in index")
  | notOneCharacter option => "\"" ++ option ++ "\" must be a 1-character string"
  | notText option optional kind =>
    "\"" ++ option ++ "\" must be string" ++ (if optional then " or None" else "") ++ ", not "
      ++ kind
  | notInteger option => "\"" ++ option ++ "\" must be an integer"
  | unknownQuoting => "bad \"quoting\" value"
  | noQuote => "quotechar must be set if quoting enabled"
  | aliases columns names =>
    "Writing " ++ Text.decimal columns ++ " cols but got " ++ Text.decimal names ++ " aliases"
  | unusedNumber => "not all arguments converted during string formatting"
  | line fault => fault.message

end RequestFault

/-- Names of options that are known. -/
def optionNames : List String :=
  ["sep", "na_rep", "float_format", "columns", "header", "index_label", "mode", "encoding",
   "compression", "quoting", "quotechar", "lineterminator", "chunksize", "date_format",
   "doublequote", "escapechar", "decimal", "errors", "storage_options"]

/-- What is wrong with the name of an option. -/
def nameFault? (name : String) : Option RequestFault :=
  if name == "path_or_buf" then some .pathGiven
  else if optionNames.contains name then none
  else some (.unknownOption name)

/-- What options say about the cells to write. -/
structure Request where
  columns : Option (List String) := Option.none
  /-- Names for the first line in place of those of the columns. -/
  aliases : Option (List Value) := Option.none
  hasHeader : Bool := true
  /-- How numbers with a fraction are written. -/
  template : Option String := Option.none
  /-- What stands for the point in them. -/
  point : String := "."

def kindName : Value → String
  | .null => "NoneType"
  | .bool _ => "bool"
  | .int _ => "int"
  | .real _ => "float"
  | .str _ => "str"
  | .arr _ => "list"
  | .obj _ => "dict"

/-- The one character that an option is. -/
def readChar (option : String) (optional : Bool) : Value → Except RequestFault (Option Char)
  | .str s =>
    match s.toList with
    | [c] => .ok (some c)
    | _ => .error (.notOneCharacter option)
  | .null => if optional then .ok none else .error (.notText option optional (kindName .null))
  | v => .error (.notText option optional (kindName v))

def readQuoting (v : Value) : Except RequestFault Quoting :=
  if !v.isTruthy then .ok .minimal
  else
    match v with
    | .int 1 => .ok .all
    | .int 2 => .ok .nonNumeric
    | .int 3 => .ok .none
    | .int _ => .error .unknownQuoting
    | _ => .error (.notInteger "quoting")

/-- The end of a line; an empty one asks for the usual. -/
def readLineEnd (v : Value) : String :=
  match v with
  | .str s => if s.isEmpty then "\n" else s
  | _ => "\n"

/-- Reads the options that say how a row is laid out. -/
def readOptions (fields : Json.Fields) : Except RequestFault Options := do
  let field := fun name (usual : Value) => (fields.lookup name).getD usual
  let separator ← readChar "delimiter" false (field "sep" (.str ","))
  let escape ← readChar "escapechar" true (field "escapechar" .null)
  let quoting := readQuoting (field "quoting" .null)
  let quote ← match quoting with
    | .ok .none => .ok (some '"')
    | _ => readChar "quotechar" true (field "quotechar" (.str "\""))
  let quoting ← quoting
  let some quote := quote | .error .noQuote
  return {
    separator := separator.getD ','
    quote
    lineEnd := readLineEnd (field "lineterminator" .null)
    quoting
    doubled := (field "doublequote" (.bool true)).isTruthy
    escape
    missing := (field "na_rep" (.str "")).plainText }

def strings (items : List Value) : List String := items.filterMap (·.str?)

/-- A name in the first line, which is empty for null. -/
def aliasOf : Value → Value
  | .null => .str ""
  | v => v

/-- A request from the names and values of its options. -/
def Request.ofFields (fields : Json.Fields) : Except RequestFault Request := do
  if fields.any (·.1 == "index") then .error .indexGiven
  if let some fault := fields.findSome? fun f => nameFault? f.1 then .error fault
  return {
    columns := ((fields.lookup "columns").bind (·.arr?)).map strings
    aliases := ((fields.lookup "header").bind (·.arr?)).map (·.map aliasOf)
    hasHeader := match fields.lookup "header" with
      | some (.arr _) => true
      | some v => v.isTruthy
      | Option.none => true
    template := (fields.lookup "float_format").bind (·.str?)
    point := ((fields.lookup "decimal").bind (·.str?)).getD "." }

/-- A number with a fraction as the request says. -/
def Request.realText? (r : Request) (x : Binary64) : Option String :=
  let usual := (Value.real x).plainText
  let text := match r.template with
    | some template => Json.Template.fill? template [.real x]
    | Option.none => some usual
  text.map fun s =>
    let (whole, rest) := s.toList.span (· != '.')
    String.ofList (whole ++ (match rest with
      | _ :: fraction => r.point.toList ++ fraction
      | [] => []))

/-- The cells of a column; numbers with a fraction become texts when the request says how. -/
def Request.cells? (r : Request) (cells : List Value) : Option (List Value) :=
  let isReal := fun v : Value => match v with | .real _ => true | _ => false
  let isPlain := r.template.isNone && r.point == "."
  if isPlain || !cells.all (fun v => v.isNull || isReal v) then some cells
  else cells.mapM fun
    | .real x => (r.realText? x).map .str
    | v => some v

/-- The columns that are asked for, as far as the table has them. -/
def Request.selected (r : Request) (t : Table) : Except RequestFault Table :=
  match r.columns with
  | Option.none => .ok t
  | some names =>
    match names.filter (!t.columns.contains ·) with
    | [] => .ok (t.select names)
    | absent => .error (.absentColumns absent.eraseDups (absent.length == names.length))

def Request.header? (r : Request) (t : Table) : Except RequestFault (Option (List Value)) :=
  let names := r.aliases.getD (t.columns.map .str)
  if !r.hasHeader then .ok Option.none
  else if names.length != t.columns.length then
    .error (.aliases t.columns.length names.length)
  else .ok (some names)

def requestedText (fields : Json.Fields) (t : Table) : Except RequestFault String := do
  let request ← Request.ofFields fields
  let t ← request.selected t
  let options ← readOptions fields
  let header ← request.header? t
  if let some fault := header.bind options.lineFault? then .error (.line fault)
  let some cols := t.settledColumns.mapM request.cells? | .error .unusedNumber
  let t := t.withColumns cols
  let options := { options with header }
  if let some fault := options.fault? t then .error (.line fault)
  return options.text t

end ClauseAudit.Table.Csv
