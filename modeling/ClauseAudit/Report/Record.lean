import ClauseAudit.Assessment.Simulation
import ClauseAudit.Text.Quoted

/-!
# Results in wire form

A result that was made elsewhere may hold any score and verdict; only the severities of its
findings have to be known, because reports weigh them.
-/

namespace ClauseAudit

structure Record where
  clausesAnalyzed : Int
  violations : List Violation
  riskScore : Int
  verdict : String
  deriving DecidableEq, Repr

namespace Record

def ofSimulation (s : Simulation) : Record :=
  { clausesAnalyzed := s.clausesAnalyzed, violations := s.violations, riskScore := s.riskScore,
    verdict := s.verdict.name }

def text (v : Json.Value) (name : String) : String := ((v.get? name).bind (·.str?)).getD ""

def number (v : Json.Value) (name : String) : Int := ((v.get? name).bind (·.int?)).getD 0

def violation (v : Json.Value) : Except UnknownSeverity Violation := do
  return { ruleId := text v "ruleId", clauseType := text v "clauseType",
           severity := ← Severity.ofName (text v "severity"), reason := text v "reason",
           remediation := text v "remediation", snippet := text v "clauseSnippet" }

def ofJson (v : Json.Value) : Except UnknownSeverity Record := do
  let violations ← (((v.get? "violations").bind (·.arr?)).getD []).mapM violation
  return { clausesAnalyzed := number v "clausesAnalyzed", violations,
           riskScore := number v "riskScore", verdict := text v "verdict" }

end Record

end ClauseAudit
