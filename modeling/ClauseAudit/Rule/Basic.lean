import ClauseAudit.Json.Value
import ClauseAudit.Rule.Severity

/-!
# Rules and policies

A rule asks clauses of one type to match a pattern, or not to match one, or both. A policy is a
named list of rules. Both have a wire form in JSON.
-/

namespace ClauseAudit

/-- A pattern with its flag letters. -/
structure Check where
  pattern : String
  flags : String
  deriving DecidableEq, Repr

structure Rule where
  id : String
  clauseType : String
  /-- Must be found in every clause of the type. -/
  required : Option Check
  /-- Must not be found in any clause of the type. -/
  forbidden : Option Check
  severity : Severity
  remediation : String
  deriving DecidableEq, Repr

structure Policy where
  name : String
  compiledAt : String
  rules : List Rule
  deriving DecidableEq, Repr

def Policy.defaultName : String := "Untitled Policy"

def Rule.defaultRemediation : String := "Update clause to satisfy policy controls."

namespace Rule

/-- A text of a check, or null when there is no check. -/
def checkJson (text : Check → String) (c : Option Check) : Json.Value :=
  (c.map fun c => .str (text c)).getD .null

def patternJson : Option Check → Json.Value := checkJson Check.pattern

def flagsJson : Option Check → Json.Value := checkJson Check.flags

def toJson (r : Rule) : Json.Value :=
  .obj [("id", .str r.id), ("clauseType", .str r.clauseType),
    ("requirePattern", patternJson r.required), ("requireFlags", flagsJson r.required),
    ("forbidPattern", patternJson r.forbidden), ("forbidFlags", flagsJson r.forbidden),
    ("severity", .str r.severity.name), ("remediation", .str r.remediation)]

end Rule

namespace Policy

def toJson (p : Policy) : Json.Value :=
  .obj [("policyName", .str p.name), ("compiledAt", .str p.compiledAt),
    ("rules", .arr (p.rules.map Rule.toJson))]

end Policy

end ClauseAudit
