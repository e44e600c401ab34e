import ClauseAudit.Rule.Severity
import ClauseAudit.Text.Lines

/-!
# Scores and verdicts

The weights of all findings add up to the risk score, which stops at one hundred. Two thresholds
divide scores into verdicts.
-/

namespace ClauseAudit

inductive Verdict where
  | safe
  | review
  | highRisk
  deriving DecidableEq, Repr

namespace Verdict

def name : Verdict → String
  | safe => "safe"
  | review => "review"
  | highRisk => "high-risk"

def ofScore (score : Int) : Verdict :=
  if 70 ≤ score then highRisk else if 35 ≤ score then review else safe

end Verdict

def maxRiskScore : Nat := 100

/-- The sum of the weights, at most one hundred. -/
def riskScore (severities : List Severity) : Nat :=
  min maxRiskScore ((severities.map Severity.weight).foldl (· + ·) 0)

def snippetLength : Int := 220

/-- The beginning of a text; dots mark what is left out. -/
def snippet (text : String) (limit : Int) : String :=
  let cs := text.toList
  if cs.length ≤ limit then text else String.ofList (Text.takeSigned cs limit) ++ "..."

end ClauseAudit
