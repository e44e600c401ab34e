import ClauseAudit.Digest.Stable
import ClauseAudit.Rule.Basic
import ClauseAudit.Text.Quoted

/-!
# Fingerprints of policies

Two policies with the same rules in the same order have the same fingerprint, whatever their names
and times of compilation.
-/

namespace ClauseAudit

def fingerprintLength : Int := 12

/-- The fingerprint of the wire form of some rules. -/
def fingerprintOfRules (rules : Json.Value) (length : Int) : String :=
  Digest.shortId (.obj [("rules", rules)]) length

def Policy.fingerprint (p : Policy) : String :=
  fingerprintOfRules (.arr (p.rules.map Rule.toJson)) fingerprintLength

/-- Why a value has no rules to take a fingerprint of. -/
inductive RulesFault where
  | noField
  | notObject (v : Json.Value)

/-- The wording for a value that has no fields. -/
def RulesFault.indexMessage : Json.Value → String
  | .arr _ => "list indices must be integers or slices, not str"
  | .str _ => "string indices must be integers, not 'str'"
  | .int _ => "'int' object is not subscriptable"
  | .real _ => "'float' object is not subscriptable"
  | .bool _ => "'bool' object is not subscriptable"
  | .null => "'NoneType' object is not subscriptable"
  | .obj _ => ""

def RulesFault.message : RulesFault → String
  | noField => Text.quoted "rules"
  | notObject v => indexMessage v

/-- The fingerprint of the rules in a value that was not checked to be a policy. -/
def fingerprintOfJson (v : Json.Value) (length : Int) : Except RulesFault String :=
  match v with
  | .obj fields =>
    match fields.lookup "rules" with
    | some rules => .ok (fingerprintOfRules rules length)
    | none => .error .noField
  | v => .error (.notObject v)

end ClauseAudit
