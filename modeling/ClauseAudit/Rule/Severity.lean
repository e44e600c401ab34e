/-!
# Severities

How much a finding counts. The weights of the five severities add up to a risk score.
-/

namespace ClauseAudit

inductive Severity where
  | critical
  | high
  | medium
  | low
  | info
  deriving DecidableEq, Repr

namespace Severity

/-- All severities, the gravest first. -/
def all : List Severity := [critical, high, medium, low, info]

def name : Severity → String
  | critical => "critical"
  | high => "high"
  | medium => "medium"
  | low => "low"
  | info => "info"

def weight : Severity → Nat
  | critical => 30
  | high => 20
  | medium => 12
  | low => 6
  | info => 2

def ofName? (s : String) : Option Severity := all.find? (·.name == s)

end Severity

/-- A name that no severity has. -/
structure UnknownSeverity where
  name : String
  deriving DecidableEq, Repr

def Severity.ofName (s : String) : Except UnknownSeverity Severity :=
  match ofName? s with
  | some severity => .ok severity
  | none => .error ⟨s⟩

end ClauseAudit
