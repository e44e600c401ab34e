import ClauseAudit.Json.Value

/-!
# Issues with values

What can be wrong with a value that has to be of some kind, and where it stands. Checks go on
after an issue, so that all issues are known in the order of the fields.
-/

namespace ClauseAudit

inductive Problem where
  | notString
  | notBoolean
  | unreadableBoolean
  | notInteger
  | unreadableInteger
  | integerTooLong
  | notWhole
  | notFinite
  | below (least : Int)
  | above (most : Int)
  | notGreater (bound : Int)
  | notList
  | notSection (model : String)
  | notObject
  | missing
  | tooShort (least : Int)
  | tooLong (most : Int)
  | notBody
  | malformed (cause : String)
  deriving DecidableEq, Repr

namespace Problem

def kind : Problem → String
  | notString => "string_type"
  | notBoolean => "bool_type"
  | unreadableBoolean => "bool_parsing"
  | notInteger => "int_type"
  | unreadableInteger => "int_parsing"
  | integerTooLong => "int_parsing_size"
  | notWhole => "int_from_float"
  | notFinite => "finite_number"
  | below _ => "greater_than_equal"
  | above _ => "less_than_equal"
  | notGreater _ => "greater_than"
  | notList => "list_type"
  | notSection _ => "model_type"
  | notObject => "dict_type"
  | missing => "missing"
  | tooShort _ => "string_too_short"
  | tooLong _ => "string_too_long"
  | notBody => "model_attributes_type"
  | malformed _ => "json_invalid"

/-- A count of characters in words. -/
def characters (n : Int) : String :=
  Text.signedDecimal n ++ (if n = 1 then " character" else " characters")

def message : Problem → String
  | notString => "Input should be a valid string"
  | notBoolean => "Input should be a valid boolean"
  | unreadableBoolean => "Input should be a valid boolean, unable to interpret input"
  | notInteger => "Input should be a valid integer"
  | unreadableInteger => "Input should be a valid integer, unable to parse string as an integer"
  | integerTooLong => "Unable to parse input string as an integer, exceeded maximum size"
  | notWhole => "Input should be a valid integer, got a number with a fractional part"
  | notFinite => "Input should be a finite number"
  | below least => "Input should be greater than or equal to " ++ Text.signedDecimal least
  | above most => "Input should be less than or equal to " ++ Text.signedDecimal most
  | notGreater bound => "Input should be greater than " ++ Text.signedDecimal bound
  | notList => "Input should be a valid list"
  | notSection model => "Input should be a valid dictionary or instance of " ++ model
  | notObject => "Input should be a valid dictionary"
  | missing => "Field required"
  | tooShort least => "String should have at least " ++ characters least
  | tooLong most => "String should have at most " ++ characters most
  | notBody => "Input should be a valid dictionary or object to extract fields from"
  | malformed _ => "JSON decode error"

/-- What the bounds or the cause of a problem are. -/
def context : Problem → Json.Fields
  | tooShort least => [("min_length", .int least)]
  | tooLong most => [("max_length", .int most)]
  | malformed cause => [("error", .str cause)]
  | _ => []

end Problem

/-- One step towards a value. -/
inductive Step where
  | field (name : String)
  | index (i : Nat)
  deriving DecidableEq, Repr

def Step.toJson : Step → Json.Value
  | field name => .str name
  | index i => .int i

structure Issue where
  place : List Step
  problem : Problem
  deriving DecidableEq, Repr

namespace Issue

/-- The issue seen from one step further out. -/
def under (step : Step) (i : Issue) : Issue := { i with place := step :: i.place }

def toJson (i : Issue) : Json.Value :=
  .obj [("loc", .arr (i.place.map Step.toJson)), ("type", .str i.problem.kind),
    ("msg", .str i.problem.message)]

end Issue

/-- A value, or all issues with it. -/
abbrev Checked (α : Type) := Except (List Issue) α

namespace Checked

def fail (p : Problem) : Checked α := .error [⟨[], p⟩]

/-- Issues seen from one step further out. -/
def under (step : Step) (c : Checked α) : Checked α := c.mapError (·.map (Issue.under step))

/-- Applies a function; issues on both sides are kept. -/
def ap (f : Checked (α → β)) (x : Checked α) : Checked β :=
  match f, x with
  | .ok f, .ok x => .ok (f x)
  | .ok _, .error issues => .error issues
  | .error issues, .ok _ => .error issues
  | .error a, .error b => .error (a ++ b)

end Checked

end ClauseAudit
