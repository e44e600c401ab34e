import ClauseAudit.Report.Record
import ClauseAudit.Table.Csv
import ClauseAudit.Table.Records

/-!
# Reports on a policy and a result

The summary counts findings by severity, the gravest first, and by rule in the order of the
policy. Rules with one identifier share one count. The findings themselves form a table, and a
narrative tells them in words.
-/

namespace ClauseAudit

/-- Identifiers without those that came before. -/
def distinct (ids : List String) : List String :=
  (ids.foldl (fun seen id => if seen.contains id then seen else id :: seen) []).reverse

structure Report where
  policy : Policy
  record : Record
  deriving DecidableEq, Repr

namespace Report

def bySeverity (r : Report) : List (Severity × Nat) :=
  Severity.all.map fun s => (s, r.record.violations.countP (·.severity == s))

def byRule (r : Report) : List (String × Nat) :=
  (distinct (r.policy.rules.map (·.id))).map fun id =>
    (id, r.record.violations.countP (·.ruleId == id))

def rulesWithoutFindings (r : Report) : List String :=
  (r.byRule.filter (·.2 == 0)).map (·.1)

/-- Counts as the fields of an object. -/
def countsJson (counts : List (String × Nat)) : Json.Value :=
  .obj (counts.map fun c => (c.1, .int c.2))

def toJson (r : Report) : Json.Value :=
  .obj [("policy", .obj [("name", .str r.policy.name), ("compiled_at", .str r.policy.compiledAt),
      ("rules", .int r.policy.rules.length)]),
    ("clauses_analyzed", .int r.record.clausesAnalyzed),
    ("violations", .int r.record.violations.length),
    ("risk_score", .int r.record.riskScore), ("verdict", .str r.record.verdict),
    ("by_severity", countsJson (r.bySeverity.map fun c => (c.1.name, c.2))),
    ("by_rule", countsJson r.byRule),
    ("rules_without_findings", .arr (r.rulesWithoutFindings.map .str))]

end Report

namespace Violation

def columns : List String :=
  ["rule_id", "clause_type", "severity", "weight", "reason", "remediation", "clause_snippet"]

def cells (v : Violation) : List Json.Value :=
  [.str v.ruleId, .str v.clauseType, .str v.severity.name, .int v.severity.weight, .str v.reason,
   .str v.remediation, .str v.snippet]

def table (vs : List Violation) : Table := { columns, rows := vs.map cells }

/-- The lines of a narrative about a finding. -/
def narrative (v : Violation) : List String :=
  let place := if v.snippet.isEmpty then "" else " :: \"" ++ v.snippet ++ "\""
  ["- [" ++ Text.upper v.severity.name ++ "] " ++ v.ruleId ++ " (" ++ v.clauseType ++ "): "
      ++ v.reason ++ place,
    "  - Remediation: " ++ v.remediation]

end Violation

namespace Report

/-- The report in words. -/
def narrative (r : Report) : String :=
  Text.joinLines (["# Policy simulation: " ++ r.policy.name,
    "- Clauses analyzed: " ++ Text.signedDecimal r.record.clausesAnalyzed,
    "- Risk score: " ++ Text.signedDecimal r.record.riskScore ++ "/100",
    "- Verdict: " ++ r.record.verdict, "", "## Findings"]
    ++ (if r.record.violations.isEmpty then ["- No violations."] else [])
    ++ r.record.violations.flatMap Violation.narrative)

def csv (r : Report) : String :=
  let t := Violation.table r.record.violations
  Table.Csv.Options.text { header := some (t.columns.map .str) } t

def ndjson (r : Report) : String := (Violation.table r.record.violations).linesText

end Report

end ClauseAudit
