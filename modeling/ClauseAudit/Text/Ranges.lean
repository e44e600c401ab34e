/-!
# Ranges of code points

A property of characters is given by the closed ranges of code points that have it.
-/

namespace ClauseAudit.Text

/-- Closed ranges of code points in ascending order. -/
abbrev Ranges := List (Nat × Nat)

def Ranges.contains (rs : Ranges) (n : Nat) : Bool :=
  rs.any fun r => r.1 ≤ n && n ≤ r.2

end ClauseAudit.Text
