import ClauseAudit.Json.Printer

/-!
# Canonical JSON

Values with the fields of every object in the order of their names, and their compact text. Two
values have the same canonical text when they differ in the order of fields only.
-/

namespace ClauseAudit.Json

/-- Strings in the order of their code points. -/
def nameLe (a b : String) : Bool := !(b.toList < a.toList : Bool)

mutual

/-- The value with all objects sorted by field name. -/
def Value.sorted : Value → Value
  | .arr items => .arr (sortedItems items)
  | .obj fields => .obj ((sortedFields fields).mergeSort fun f g => nameLe f.1 g.1)
  | v => v

def sortedItems : List Value → List Value
  | [] => []
  | v :: rest => v.sorted :: sortedItems rest

def sortedFields : List (String × Value) → List (String × Value)
  | [] => []
  | (name, v) :: rest => (name, v.sorted) :: sortedFields rest

end

/-- The compact text of a value with sorted objects. -/
def Value.canonicalText (v : Value) : String := v.sorted.text .compact

end ClauseAudit.Json
