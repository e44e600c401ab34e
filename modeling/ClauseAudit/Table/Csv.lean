import ClauseAudit.Table.Basic

/-!
# Comma-separated values

Every row is a line; its fields stand between separators. A field is put between quotes, with the
quotes inside it doubled, when it could be misread otherwise or when the options ask for it. Where
there can be no quotes an escape stands before what could be misread; `Options.fault?` tells the
tables that need one and have none.
-/

namespace ClauseAudit.Table.Csv

inductive Quoting where
  /-- Only fields that could be misread. -/
  | minimal
  | all
  /-- All fields but numbers. -/
  | nonNumeric
  /-- No field. -/
  | none
  deriving DecidableEq, Repr

structure Options where
  separator : Char := ','
  quote : Char := '"'
  lineEnd : String := "\n"
  quoting : Quoting := .minimal
  /-- A quote inside a field is doubled; otherwise it is escaped. -/
  doubled : Bool := true
  /-- What stands before a character that would be misread. -/
  escape : Option Char := Option.none
  /-- What stands for a missing cell. -/
  missing : String := ""
  /-- The first line; without it there is no such line. -/
  header : Option (List Json.Value) := Option.none

def Options.cellText (o : Options) : Json.Value → String
  | .null => o.missing
  | v => v.plainText

def isNumber : Json.Value → Bool
  | .int _ | .real _ | .bool _ => true
  | _ => false

def Options.isQuote (o : Options) (c : Char) : Bool := o.quoting != .none && c == o.quote

/-- Characters that cannot stand in a bare field. -/
def Options.isSpecial (o : Options) (c : Char) : Bool :=
  c == o.separator || o.isQuote c || o.escape == some c || o.lineEnd.toList.contains c

/-- Special characters that quotes around the field do not help. -/
def Options.needsEscape (o : Options) (c : Char) : Bool :=
  if o.quoting == .none then o.isSpecial c
  else if o.isQuote c then !o.doubled
  else o.escape == some c

def Options.needsQuotes (o : Options) (c : Char) : Bool := o.isSpecial c && !o.needsEscape c

def Options.charText (o : Options) (c : Char) : List Char :=
  if o.needsEscape c then o.escape.toList ++ [c]
  else if o.isQuote c then [c, c]
  else [c]

/-- A field; the only field of a row is never written as nothing. -/
def Options.field (o : Options) (alone : Bool) (v : Json.Value) : List Char :=
  let cs := (o.cellText v).toList
  let wanted := match o.quoting with
    | .minimal => cs.any o.needsQuotes || (alone && cs.isEmpty)
    | .all => true
    | .nonNumeric => !isNumber v || cs.any o.needsQuotes
    | .none => false
  let body := cs.flatMap o.charText
  if wanted then o.quote :: body ++ [o.quote] else body

def Options.row (o : Options) (cells : List Json.Value) : List Char :=
  let alone := cells.length == 1
  List.intercalate [o.separator] (cells.map (o.field alone)) ++ o.lineEnd.toList

def Options.lines (o : Options) (t : Table) : List (List Json.Value) :=
  o.header.toList ++ t.settled.rows

def Options.text (o : Options) (t : Table) : String := String.ofList ((o.lines t).flatMap o.row)

/-- Why a line cannot be written so that it reads back. -/
inductive Fault where
  | escapeNeeded
  /-- A line with one empty field, which would be an empty line. -/
  | emptyAlone
  deriving DecidableEq, Repr

/-- What is wrong with a line. -/
def Options.lineFault? (o : Options) (cells : List Json.Value) : Option Fault :=
  let texts := cells.map fun v => (o.cellText v).toList
  if o.escape.isNone && texts.any (·.any o.needsEscape) then some .escapeNeeded
  else if o.quoting == .none && texts == [[]] then some .emptyAlone
  else Option.none

/-- The fault of the first line that has one. -/
def Options.fault? (o : Options) (t : Table) : Option Fault := (o.lines t).findSome? o.lineFault?

end ClauseAudit.Table.Csv
