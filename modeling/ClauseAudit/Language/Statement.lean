import ClauseAudit.Text.Blank
import ClauseAudit.Text.Lines

/-!
# Statements of the policy language

Every line holds one statement: a keyword, alone or with a blank and an argument after it. Lines
without text and lines that start with a number sign hold none.
-/

namespace ClauseAudit.Language

inductive Keyword where
  | clauseType
  | require
  | forbid
  | severity
  | remediation
  deriving DecidableEq, Repr

namespace Keyword

def all : List Keyword := [clauseType, require, forbid, severity, remediation]

def text : Keyword → String
  | clauseType => "WHEN CLAUSE TYPE"
  | require => "REQUIRE"
  | forbid => "FORBID"
  | severity => "SEVERITY"
  | remediation => "REMEDIATION"

end Keyword

inductive Statement where
  | policy (argument : String)
  | rule (argument : String)
  | field (keyword : Keyword) (argument : String)
  | close
  | other (line : String)
  deriving DecidableEq, Repr

/-- The argument of a keyword; none when the line is another statement. -/
def argument? (keyword : String) (line : List Char) : Option String :=
  if line = keyword.toList then some ""
  else if (keyword.toList ++ [' ']).isPrefixOf line then
    some (String.ofList (Text.stripChars (line.drop (keyword.toList.length + 1))))
  else none

namespace Statement

def ofLine (line : List Char) : Statement :=
  match argument? "POLICY" line with
  | some arg => .policy arg
  | none =>
    match argument? "RULE" line with
    | some arg => .rule arg
    | none =>
      match Keyword.all.findSome? fun k => (argument? k.text line).map (Prod.mk k) with
      | some (keyword, arg) => .field keyword arg
      | none => if line = "END".toList then .close else .other (String.ofList line)

/-- The statement of a line as it stands in the text; none for blank lines and comments. -/
def ofRaw? (raw : String) : Option Statement :=
  match Text.stripChars raw.toList with
  | [] => none
  | '#' :: _ => none
  | line => some (ofLine line)

end Statement

end ClauseAudit.Language
