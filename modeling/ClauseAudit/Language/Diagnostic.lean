import ClauseAudit.Language.Statement
import ClauseAudit.Rule.Literal
import ClauseAudit.Text.Letters
import ClauseAudit.Text.Quoted

/-!
# Diagnostics of the policy language

What can be wrong with a policy text, and at which line it is reported.
-/

namespace ClauseAudit.Language

inductive Reason where
  | repeatedPolicy
  | expectedQuoted
  | previousNotClosed (id : String)
  | missingId
  | outsideRule
  | duplicate (keyword : Keyword) (id : String)
  | missingTypeValue
  | expectedLiteral
  | unsupportedFlag (flag : Char) (raw : String)
  | invalidLiteral (raw : String)
  | invalidSeverity (name : String)
  | missingType (id : String)
  | missingCheck (id : String)
  | missingSeverity (id : String)
  | unsupportedStatement (line : String)
  | unclosed (id : String)
  | noRules
  deriving DecidableEq, Repr

namespace Reason

def message : Reason → String
  | repeatedPolicy => "POLICY declared more than once"
  | expectedQuoted => "expected quoted string"
  | previousNotClosed id => "previous RULE " ++ id ++ " not closed with END"
  | missingId => "RULE requires an identifier"
  | outsideRule => "statement outside RULE block"
  | duplicate keyword id => "duplicate " ++ keyword.text ++ " in RULE " ++ id
  | missingTypeValue => "WHEN CLAUSE TYPE requires value"
  | expectedLiteral => "expected regex literal like /pattern/i"
  | unsupportedFlag flag raw =>
    "unsupported regex flag " ++ Text.quoted flag.toString ++ " in " ++ raw
  | invalidLiteral raw => "invalid regex literal " ++ raw
  | invalidSeverity name => "invalid severity " ++ name
  | missingType id => "RULE " ++ id ++ " missing WHEN CLAUSE TYPE ..."
  | missingCheck id => "RULE " ++ id ++ " needs REQUIRE and/or FORBID"
  | missingSeverity id => "RULE " ++ id ++ " missing SEVERITY"
  | unsupportedStatement line => "unsupported statement '" ++ line ++ "'"
  | unclosed id => "Unclosed RULE " ++ id ++ "; expected END"
  | noRules => "No rules compiled from DSL"

end Reason

/-- A reason and the line that it is reported at, counted from one. -/
structure Diagnostic where
  line : Nat
  reason : Reason
  deriving DecidableEq, Repr

def Diagnostic.message (d : Diagnostic) : String :=
  "Line " ++ Text.decimal d.line ++ ": " ++ d.reason.message

/-- Why a policy text gives no policy. -/
inductive Failure where
  | diagnostic (d : Diagnostic)
  /-- A number of a pattern is over the limit of the pattern language. -/
  | overflow (fault : LiteralFault)
  deriving DecidableEq, Repr

end ClauseAudit.Language
