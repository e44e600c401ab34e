import ClauseAudit.Number.Binary64

/-!
# TOML values

Values of a settings file. Dates and times are told apart but not kept, because no setting takes
one.
-/

namespace ClauseAudit.Toml

inductive Moment where
  | date
  | time
  | dateTime
  deriving DecidableEq, Repr

inductive Value where
  | str (s : String)
  | int (i : Int)
  | real (x : Binary64)
  | bool (b : Bool)
  | moment (m : Moment)
  | arr (items : List Value)
  | table (fields : List (String × Value))
  deriving Repr, Inhabited

abbrev Fields := List (String × Value)

abbrev Key := List String

/-- Arrays and tables. -/
def Value.isContainer : Value → Bool
  | .arr _ => true
  | .table _ => true
  | _ => false

end ClauseAudit.Toml
