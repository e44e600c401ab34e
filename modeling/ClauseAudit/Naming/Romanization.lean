import ClauseAudit.Naming.IdeographReadings
import ClauseAudit.Naming.RomanizationTable

/-!
# Romanization

Spells text in ASCII. Characters without a spelling are left out; an ideograph becomes its reading
and a space.
-/

namespace ClauseAudit.Naming

def isIdeograph (n : Nat) : Bool := 0x4E00 ≤ n && n ≤ 0x9FA5

/-- The reading of an ideograph. -/
def reading? (c : Char) : Option String :=
  (ideographReadings.find? fun entry => entry.2.toList.contains c).map (·.1)

def spelling? (n : Nat) : Option String :=
  romanizationRows.findSome? fun (first, spellings) =>
    if first ≤ n then spellings[n - first]? else none

def romanizeChar (c : Char) : List Char :=
  if c.toNat < 0x80 then [c]
  else if isIdeograph c.toNat then ((reading? c).map fun r => r.toList ++ [' ']).getD []
  else ((spelling? c.toNat).map String.toList).getD []

/-- A text in ASCII. -/
def romanize (cs : List Char) : List Char := cs.flatMap romanizeChar

end ClauseAudit.Naming
