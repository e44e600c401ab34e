import ClauseAudit.Number.Shortest

/-!
# JSON values

Values keep the order of object fields and tell integers from floating-point numbers. A later
field of the same name replaces the value of an earlier one at the earlier place.
-/

namespace ClauseAudit.Json

inductive Value where
  | null
  | bool (b : Bool)
  | int (i : Int)
  | real (x : Binary64)
  | str (s : String)
  | arr (items : List Value)
  | obj (fields : List (String × Value))
  deriving Repr, Inhabited

/-- The fields of an object in their order. -/
abbrev Fields := List (String × Value)

def Fields.set (fields : Fields) (name : String) (v : Value) : Fields :=
  if fields.any (·.1 == name) then fields.map fun f => if f.1 == name then (f.1, v) else f
  else fields ++ [(name, v)]

def Fields.get? (fields : Fields) (name : String) : Option Value := fields.lookup name

namespace Value

def get? (v : Value) (name : String) : Option Value :=
  match v with
  | .obj fields => fields.lookup name
  | _ => none

def str? : Value → Option String
  | .str s => some s
  | _ => none

def int? : Value → Option Int
  | .int i => some i
  | _ => none

def bool? : Value → Option Bool
  | .bool b => some b
  | _ => none

def arr? : Value → Option (List Value)
  | .arr items => some items
  | _ => none

def obj? : Value → Option Fields
  | .obj fields => some fields
  | _ => none

def isNull : Value → Bool
  | .null => true
  | _ => false

/-- Empty values, zero, false and null count as absent. -/
def isTruthy : Value → Bool
  | .null => false
  | .bool b => b
  | .int i => i != 0
  | .real x => !x.isZero
  | .str s => !s.isEmpty
  | .arr items => !items.isEmpty
  | .obj fields => !fields.isEmpty

end Value

end ClauseAudit.Json
