import ClauseAudit.Json.PlainText
import ClauseAudit.Rule.Basic
import ClauseAudit.Rule.Literal

/-!
# Loading rules and policies

Builds rules from their wire form and checks all that the policy language checks, so that every
loaded policy can be simulated. Fields that name things may have any value that is not empty and
are read as text; patterns, flags and remediation must be strings.
-/

namespace ClauseAudit

/-- Why a wire form is refused. -/
inductive LoadFault where
  | ruleNotObject
  | missingId
  | missingClauseType (id : String)
  | invalidSeverity (id severity : String)
  | notString (id field : String)
  | missingCheck (id : String)
  | literal (fault : LiteralFault)
  | policyNotObject
  | noRules
  deriving DecidableEq, Repr

namespace LoadFault

def message : LoadFault → String
  | ruleNotObject => "rule must be an object"
  | missingId => "rule id is required"
  | missingClauseType id => "RULE " ++ id ++ " missing clauseType"
  | invalidSeverity id severity => "RULE " ++ id ++ " has invalid severity " ++ severity
  | notString id field => "RULE " ++ id ++ " field " ++ field ++ " must be a string"
  | missingCheck id => "RULE " ++ id ++ " needs requirePattern and/or forbidPattern"
  | literal fault => fault.message
  | policyNotObject => "compiled policy must be an object"
  | noRules => "compiled policy has no rules"

/-- The pattern whose number is over the limit of the pattern language. -/
def overflow? : LoadFault → Option LiteralFault
  | literal fault => if fault.isOverflow then some fault else none
  | _ => none

end LoadFault

namespace Wire

/-- The text of a field; empty when the field is missing or has an empty value. -/
def textField (fields : Json.Fields) (name : String) : String :=
  match fields.lookup name with
  | some v => if v.isTruthy then v.plainText else ""
  | none => ""

/-- The string in a field; none when the field is missing or null. -/
def stringField (id : String) (fields : Json.Fields) (name : String) :
    Except LoadFault (Option String) :=
  match fields.lookup name with
  | none => .ok none
  | some .null => .ok none
  | some (.str s) => .ok (some s)
  | some _ => .error (.notString id name)

/-- A check, unless its pattern is missing or empty. Flags without a pattern do not count. -/
def check? (pattern flags : Option String) : Option Check :=
  match pattern with
  | some p => if p.isEmpty then none else some ⟨p, flags.getD ""⟩
  | none => none

/-- The pattern of a check can be used. -/
def verify (c : Option Check) : Except LoadFault Unit :=
  match c with
  | none => .ok ()
  | some c =>
    match Literal.compile c.pattern c.flags with
    | .ok _ => .ok ()
    | .error fault => .error (.literal fault)

end Wire

namespace Rule

open Wire in
def ofJson (v : Json.Value) : Except LoadFault Rule := do
  let .obj fields := v | .error .ruleNotObject
  let id := textField fields "id"
  if id.isEmpty then .error .missingId
  let clauseType := Text.upper (textField fields "clauseType")
  if clauseType.isEmpty then .error (.missingClauseType id)
  let severityName := Text.lower (textField fields "severity")
  let some severity := Severity.ofName? severityName | .error (.invalidSeverity id severityName)
  let requirePattern ← stringField id fields "requirePattern"
  let requireFlags ← stringField id fields "requireFlags"
  let forbidPattern ← stringField id fields "forbidPattern"
  let forbidFlags ← stringField id fields "forbidFlags"
  let remediation ← stringField id fields "remediation"
  let required := check? requirePattern requireFlags
  let forbidden := check? forbidPattern forbidFlags
  if required.isNone && forbidden.isNone then .error (.missingCheck id)
  verify required
  verify forbidden
  return { id, clauseType, required, forbidden, severity,
           remediation := remediation.getD Rule.defaultRemediation }

end Rule

namespace Policy

def ofJson (v : Json.Value) : Except LoadFault Policy := do
  let .obj fields := v | .error .policyNotObject
  let some (Json.Value.arr (first :: rest)) := fields.lookup "rules" | .error .noRules
  let name := Wire.textField fields "policyName"
  let rules ← (first :: rest).mapM Rule.ofJson
  return { name := if name.isEmpty then defaultName else name
           compiledAt := Wire.textField fields "compiledAt"
           rules }

end Policy

end ClauseAudit
