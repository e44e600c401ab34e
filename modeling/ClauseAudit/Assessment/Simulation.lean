import ClauseAudit.Assessment.Score
import ClauseAudit.Contract.Clause
import ClauseAudit.Rule.Basic
import ClauseAudit.Rule.Literal

/-!
# Simulation

Applies the rules of a policy to the clauses of a contract. Findings come in the order of the
rules, and for one rule in the order of the clauses.
-/

namespace ClauseAudit

/-- A rule that a contract does not keep, and where. -/
structure Violation where
  ruleId : String
  clauseType : String
  severity : Severity
  reason : String
  remediation : String
  snippet : String
  deriving DecidableEq, Repr

structure Simulation where
  clausesAnalyzed : Nat
  violations : List Violation
  riskScore : Nat
  verdict : Verdict
  deriving DecidableEq, Repr

namespace Rule

/-- The finding that a rule makes in a text. -/
def violation (r : Rule) (reason text : String) : Violation :=
  { ruleId := r.id, clauseType := r.clauseType, severity := r.severity, reason,
    remediation := r.remediation,
    snippet := if text.isEmpty then "" else ClauseAudit.snippet text snippetLength }

def prepare (c : Option Check) : Except LiteralFault (Option Regex.Pattern) :=
  match c with
  | none => .ok none
  | some c => (Literal.compile c.pattern c.flags).map some

def literal (c : Option Check) : String :=
  match c with
  | some c => Literal.format c.pattern c.flags
  | none => Literal.format "" ""

/-- Findings in one clause of the rule's type. -/
def judge (r : Rule) (required forbidden : Option Regex.Pattern) (text : String) :
    List Violation :=
  (match required with
    | some p =>
      if p.search text then []
      else [r.violation ("Required pattern missing: " ++ literal r.required) text]
    | none => []) ++
  (match forbidden with
    | some p =>
      if p.search text then
        [r.violation ("Forbidden pattern present: " ++ literal r.forbidden) text]
      else []
    | none => [])

/-- Findings of a rule. Without a clause of its type only a requirement is missed. -/
def evaluate (r : Rule) (clauses : List Clause) : Except LiteralFault (List Violation) :=
  match clauses.filter fun c => c.clauseType == r.clauseType with
  | [] =>
    .ok (if r.required.isSome then
      [r.violation ("No clause found for required type " ++ r.clauseType) ""]
    else [])
  | matching => do
    let required ← prepare r.required
    let forbidden ← prepare r.forbidden
    return matching.flatMap fun c => r.judge required forbidden c.text

end Rule

namespace Policy

/-- Findings of all rules, in their order. -/
def evaluate (p : Policy) (clauses : List Clause) : Except LiteralFault (List Violation) :=
  return (← p.rules.mapM (·.evaluate clauses)).flatten

def simulate (p : Policy) (contract : String) : Except LiteralFault Simulation := do
  let clauses := Clause.segment contract
  let violations ← p.evaluate clauses
  let score := riskScore (violations.map (·.severity))
  return { clausesAnalyzed := clauses.length, violations, riskScore := score,
           verdict := .ofScore score }

end Policy

namespace Violation

def toJson (v : Violation) : Json.Value :=
  .obj [("ruleId", .str v.ruleId), ("clauseType", .str v.clauseType),
    ("severity", .str v.severity.name), ("reason", .str v.reason),
    ("remediation", .str v.remediation), ("clauseSnippet", .str v.snippet)]

end Violation

namespace Simulation

def toJson (s : Simulation) : Json.Value :=
  .obj [("clausesAnalyzed", .int s.clausesAnalyzed),
    ("violations", .arr (s.violations.map Violation.toJson)),
    ("riskScore", .int s.riskScore), ("verdict", .str s.verdict.name)]

end Simulation

end ClauseAudit
