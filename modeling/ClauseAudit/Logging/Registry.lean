import ClauseAudit.Logging.Record
import ClauseAudit.Settings.Basic
import ClauseAudit.Text.Case

/-!
# Loggers

Loggers have dotted names and are linked as they come to be known: each to the nearest known one
above it. A logger that was set up has a level and writes records itself; one that was not hands
them on to the logger above. The first set-up counts.
-/

namespace ClauseAudit.Logging

structure Setup where
  /-- Zero leaves the level to the loggers above. -/
  level : Int
  /-- Write records as JSON and not as plain lines. -/
  structured : Bool
  deriving DecidableEq, Repr

structure Logger where
  /-- Zero leaves the level to the loggers above. -/
  level : Int := 0
  /-- For each handler, whether it writes JSON. -/
  handlers : List Bool := []
  /-- Records go on to the logger above. -/
  propagates : Bool := true
  /-- The logger above, if it is not the root. -/
  above : Option String := none
  /-- Levels that were asked about since a level was last set, and whether they are enabled. -/
  answers : List (Int × Bool) := []
  deriving DecidableEq, Repr

namespace Logger

def setUp (l : Logger) (s : Setup) : Logger :=
  { l with level := s.level, handlers := l.handlers ++ [s.structured], propagates := false }

def forget (l : Logger) : Logger := { l with answers := [] }

/-- Keeps the answer about a level, unless there is one. -/
def remember (l : Logger) (level : Int) (enabled : Bool) : Logger :=
  if (l.answers.lookup level).isSome then l
  else { l with answers := l.answers ++ [(level, enabled)] }

end Logger

def rootName : String := "root"

def rootLevel : Int := 30

structure Registry where
  root : Logger := { level := rootLevel }
  /-- The known loggers by their names, without the root. -/
  loggers : List (String × Logger) := []
  /-- Names of loggers that are not known, each with a logger below. -/
  waiting : List (String × String) := []
  deriving DecidableEq, Repr

/-- A text that names something other than a level. -/
inductive LevelFault where
  /-- The layout of plain records. -/
  | layout
  /-- The table of layout styles. -/
  | styles
  deriving DecidableEq, Repr

/-- The layout of plain records in one of the styles. -/
def styledLayout (before after : String) : String :=
  String.intercalate ":" (["levelname", "name", "message"].map fun n => before ++ n ++ after)

/-- A style in the table of styles. -/
def styleEntry (mark className before after : String) : String :=
  String.join ["'", mark, "': (<class 'logging.", className, "'>, '", styledLayout before after,
    "')"]

def LevelFault.message : LevelFault → String
  | .layout => "Unknown level: '" ++ styledLayout "%(" ")s" ++ "'"
  | .styles =>
    let styles := [styleEntry "%" "PercentStyle" "%(" ")s",
      styleEntry "\x7b" "StrFormatStyle" "\x7b" "\x7d",
      styleEntry "$" "StringTemplateStyle" "$\x7b" "\x7d"]
    "Level not an integer or a valid string: \x7b" ++ String.intercalate ", " styles ++ "\x7d"

/-- The level that a text names, whatever its case; unknown texts name the usual level. -/
def levelOf (text : String) : Except LevelFault Int :=
  match Text.upper text with
  | "BASIC_FORMAT" => .error .layout
  | "_STYLES" => .error .styles
  | name => .ok ((levelsByName.lookup name).getD 20)

/-- The name of a logger; no name is the name of the root. -/
def canonicalName (name : String) : String := if name.isEmpty then rootName else name

/-- What stands before the dots of a name, the longest first; all characters are given from the last
one. The character before a dot is passed over, so of two dots in a row the last one counts. -/
def fronts : List Char → List (List Char)
  | [] => []
  | '.' :: c :: rest => (c :: rest).reverse :: fronts rest
  | _ :: rest => fronts rest

/-- The names above a name, the nearest first, without the root. -/
def namesAbove (name : String) : List String := (fronts name.toList.reverse).map String.ofList

namespace Registry

def isKnown (r : Registry) (name : String) : Bool := (r.loggers.lookup name).isSome

/-- The logger of a name; one that is not known has nothing set. -/
def logger (r : Registry) (name : String) : Logger :=
  let name := canonicalName name
  if name = rootName then r.root else (r.loggers.lookup name).getD {}

def modify (r : Registry) (name : String) (f : Logger → Logger) : Registry :=
  let name := canonicalName name
  if name = rootName then { r with root := f r.root }
  else { r with loggers := r.loggers.map fun l => if l.1 = name then (l.1, f l.2) else l }

/-- Drops the answers of all loggers. -/
def forget (r : Registry) : Registry :=
  { r with root := r.root.forget, loggers := r.loggers.map fun l => (l.1, l.2.forget) }

/-- Puts a new logger above one that waited for it, unless it is linked to one still nearer. Which
logger is nearer is seen from the beginning of its name. -/
def relink (r : Registry) (name child : String) (l : Logger) : Logger :=
  if r.waiting.contains (name, child)
      && !name.toList.isPrefixOf (l.above.getD rootName).toList then
    { l with above := some name }
  else l

/-- Makes a logger known, if it is not, and links it to those above and below. -/
def enter (r : Registry) (name : String) : Registry :=
  let name := canonicalName name
  if name = rootName || r.isKnown name then r
  else
    let names := namesAbove name
    { r with
      loggers := (r.loggers.map fun l => (l.1, r.relink name l.1 l.2))
        ++ [(name, { above := names.find? r.isKnown })]
      waiting := r.waiting.filter (·.1 != name)
        ++ (names.takeWhile fun n => !r.isKnown n).map fun n => (n, name) }

/-- Sets a logger up, after which no answer about a level counts any more. -/
def configure (r : Registry) (name : String) (s : Setup) : Registry :=
  (r.enter name).forget.modify name fun l => l.setUp s

def setUp (r : Registry) (name : String) (settings : LogSettings) : Except LevelFault Registry :=
  if !(r.logger name).handlers.isEmpty then .ok r
  else do
    let level ← levelOf settings.level
    return r.configure name ⟨level, settings.structured⟩

/-- The registry in which one logger is set up in the usual way. -/
def usual (name : String) : Registry :=
  configure {} name { level := 20, structured := true }

/-- The known logger of a name and those above it up to the root. A name is longer than those above
it, so its length bounds the way. -/
def chainFrom (r : Registry) : Nat → String → List Logger
  | 0, _ => [r.root]
  | fuel + 1, name =>
    match r.loggers.lookup name with
    | none => [r.root]
    | some l =>
      l :: match l.above with
        | some above => r.chainFrom fuel above
        | none => [r.root]

def chain (r : Registry) (name : String) : List Logger :=
  r.chainFrom name.length (canonicalName name)

/-- The level below which a logger drops records: the nearest one that is set. -/
def threshold (r : Registry) (name : String) : Int :=
  (((r.chain name).find? fun l => l.level != 0).map (·.level)).getD 0

/-- Records of a level are not dropped. An answer that was given before is given again. -/
def isEnabled (r : Registry) (name : String) (level : Int) : Bool :=
  ((r.logger name).answers.lookup level).getD (0 < level && r.threshold name ≤ level)

/-- The handlers of loggers up to the first one that does not hand records on. -/
def handlers : List Logger → List Bool
  | [] => []
  | l :: rest => l.handlers ++ if l.propagates then handlers rest else []

/-- A value that has the name of one of the record's own. -/
structure NameTaken where
  name : String
  deriving DecidableEq, Repr

def NameTaken.message (n : NameTaken) : String :=
  Text.quoted ("Attempt to overwrite " ++ Text.quoted n.name ++ " in LogRecord")

structure Entry where
  logger : String
  level : Int
  template : Json.Value
  args : List Json.Value := []
  extras : Json.Fields := []
  failure : Option Failure := none
  time : Int

/-- The line of a message in one of the forms. Without a text there is none. -/
def Entry.line (e : Entry) (structured : Bool) : String :=
  match Json.Template.fill? e.template.plainText e.args with
  | some message =>
    let record : Record :=
      { level := e.level, logger := canonicalName e.logger, message, time := e.time,
        failure := e.failure, extras := e.extras }
    record.line structured ++ "\n"
  | none => ""

/-- What is written for a message: a line for each handler. -/
def log (r : Registry) (e : Entry) : Except NameTaken String :=
  let r := r.enter e.logger
  if !r.isEnabled e.logger e.level then .ok ""
  else
    match e.extras.find? fun f => reservedNames.contains f.1 with
    | some f => .error ⟨f.1⟩
    | none => .ok (String.join ((handlers (r.chain e.logger)).map e.line))

/-- A call: a logger is set up, or a message is logged. -/
inductive Call where
  | setUp (name : String) (settings : LogSettings)
  | log (e : Entry)

/-- The registry after a call. A logger is known even if its set-up failed. -/
def after (r : Registry) : Call → Registry
  | .setUp name settings =>
    match r.setUp name settings with
    | .ok r => r
    | .error _ => r.enter name
  | .log e =>
    let r := r.enter e.logger
    r.modify e.logger fun l => l.remember e.level (r.isEnabled e.logger e.level)

end Registry

end ClauseAudit.Logging
