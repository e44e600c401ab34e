import ClauseAudit.Json.Printer
import ClauseAudit.Json.Template
import ClauseAudit.Time.Stamp

/-!
# Log records

A record is one message with its level, logger and time. It is written as one line of JSON, or as
a plain line. Values that belong to the record stand after its own fields, as far as their names
are free.
-/

namespace ClauseAudit.Logging

def levelNames : List (Int × String) :=
  [(50, "CRITICAL"), (40, "ERROR"), (30, "WARNING"), (20, "INFO"), (10, "DEBUG"), (0, "NOTSET")]

def levelName (level : Int) : String :=
  (levelNames.lookup level).getD ("Level " ++ Text.signedDecimal level)

/-- Levels by their names in upper case; some have two. -/
def levelsByName : List (String × Int) :=
  [("CRITICAL", 50), ("FATAL", 50), ("ERROR", 40), ("WARNING", 30), ("WARN", 30), ("INFO", 20),
   ("DEBUG", 10), ("NOTSET", 0)]

/-- A failure that a record reports: its kind and text. -/
structure Failure where
  kind : String
  text : String
  deriving DecidableEq, Repr

/-- Failed look-ups show the key in quotes. -/
def Failure.line (f : Failure) : String :=
  let text := if f.kind = "KeyError" then Text.quoted f.text else f.text
  if text.isEmpty then f.kind else f.kind ++ ": " ++ text

structure Record where
  level : Int
  logger : String
  message : String
  /-- The instant of universal time. -/
  time : Int
  failure : Option Failure := none
  extras : Json.Fields := []

/-- Names that a record has for itself. Values with these names are refused. -/
def reservedNames : List String :=
  ["name", "msg", "args", "levelname", "levelno", "pathname", "filename", "module", "exc_info",
   "exc_text", "stack_info", "lineno", "funcName", "created", "msecs", "relativeCreated",
   "thread", "threadName", "processName", "process", "message", "asctime"]

/-- A name that is kept out of JSON records. -/
def hiddenName : String := "taskName"

namespace Record

def toJson (r : Record) : Json.Value :=
  let own : Json.Fields :=
    [("level", .str (levelName r.level)), ("name", .str r.logger), ("message", .str r.message),
      ("time", .str (Time.universalText r.time))]
    ++ (match r.failure with
      | some f => [("exc_info", .str f.line)]
      | none => [])
  .obj (own ++ r.extras.filter fun f => f.1 != hiddenName && !own.any (·.1 == f.1))

def jsonLine (r : Record) : String := r.toJson.text .compact

def plainLine (r : Record) : String :=
  let c := Time.Civil.ofMicros r.time
  let head := Time.dateText c ++ " " ++ Time.timeText c
    ++ "," ++ Time.padded 3 (c.microsecond / 1000)
    ++ " " ++ levelName r.level ++ " " ++ r.logger ++ ": " ++ r.message
  match r.failure with
  | some f => head ++ (if head.toList.getLast? == some '\n' then "" else "\n") ++ f.line
  | none => head

/-- The record in either form. -/
def line (structured : Bool) (r : Record) : String :=
  if structured then r.jsonLine else r.plainLine

end Record

end ClauseAudit.Logging
