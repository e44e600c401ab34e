import ClauseAudit.Language.Diagnostic
import ClauseAudit.Rule.Basic
import ClauseAudit.Rule.Literal

/-!
# Compiling policy texts

A policy text is read line by line. The state holds the policy's name, the rule block that is
open, and the rules that are complete. The first fault ends the compilation; there are no partial
results.
-/

namespace ClauseAudit.Language

/-- What an open rule block has said so far. -/
structure Draft where
  id : String
  clauseType : Option String := none
  required : Option Check := none
  forbidden : Option Check := none
  severity : Option Severity := none
  remediation : Option String := none
  deriving DecidableEq, Repr

/-- Everything known after some lines. -/
structure State where
  name : Option String := none
  draft : Option Draft := none
  rules : List Rule := []
  deriving DecidableEq, Repr

def fail (line : Nat) (reason : Reason) : Except Failure α := .error (.diagnostic ⟨line, reason⟩)

/-- The text between the first and last double quote, which enclose the whole argument. -/
def quoted? (raw : String) : Option String :=
  match raw.toList with
  | '"' :: rest =>
    if rest.getLast? = some '"' then some (String.ofList rest.dropLast) else none
  | _ => none

def readQuoted (raw : String) (line : Nat) : Except Failure String :=
  match quoted? raw with
  | some s => .ok s
  | none => fail line .expectedQuoted

/-- A pattern literal whose flags and pattern can be used. -/
def readCheck (raw : String) (line : Nat) : Except Failure Check :=
  match Literal.split? raw with
  | none => fail line .expectedLiteral
  | some (pattern, flags) =>
    match Literal.compile pattern flags with
    | .ok _ => .ok ⟨pattern, flags⟩
    | .error (.flags (.unsupported c)) => fail line (.unsupportedFlag c raw)
    | .error fault =>
      if fault.isOverflow then .error (.overflow fault) else fail line (.invalidLiteral raw)

def readSeverity (raw : String) (line : Nat) : Except Failure Severity :=
  let name := Text.lower (Text.strip raw)
  match Severity.ofName? name with
  | some s => .ok s
  | none => fail line (.invalidSeverity name)

namespace Draft

def uses (d : Draft) : Keyword → Bool
  | .clauseType => d.clauseType.isSome
  | .require => d.required.isSome
  | .forbid => d.forbidden.isSome
  | .severity => d.severity.isSome
  | .remediation => d.remediation.isSome

/-- Adds a statement of the block. Every keyword may be used once. -/
def add (d : Draft) (keyword : Keyword) (argument : String) (line : Nat) :
    Except Failure Draft := do
  if d.uses keyword then fail line (.duplicate keyword d.id)
  match keyword with
  | .clauseType =>
    if argument.isEmpty then fail line .missingTypeValue
    return { d with clauseType := some (Text.upper argument) }
  | .require => return { d with required := some (← readCheck argument line) }
  | .forbid => return { d with forbidden := some (← readCheck argument line) }
  | .severity => return { d with severity := some (← readSeverity argument line) }
  | .remediation => return { d with remediation := some (← readQuoted argument line) }

def finish (d : Draft) (line : Nat) : Except Failure Rule := do
  let some clauseType := d.clauseType | fail line (.missingType d.id)
  if d.required.isNone && d.forbidden.isNone then fail line (.missingCheck d.id)
  let some severity := d.severity | fail line (.missingSeverity d.id)
  return { id := d.id, clauseType, required := d.required, forbidden := d.forbidden, severity,
           remediation := d.remediation.getD Rule.defaultRemediation }

end Draft

namespace State

/-- Takes up one statement. -/
def apply (s : State) (line : Nat) (statement : Statement) : Except Failure State := do
  match statement with
  | .policy argument =>
    if s.name.isSome then fail line .repeatedPolicy
    return { s with name := some (← readQuoted argument line) }
  | .rule argument =>
    if let some draft := s.draft then fail line (.previousNotClosed draft.id)
    if argument.isEmpty then fail line .missingId
    return { s with draft := some { id := argument } }
  | statement =>
    let some draft := s.draft | fail line .outsideRule
    match statement with
    | .field keyword argument =>
      return { s with draft := some (← draft.add keyword argument line) }
    | .close => return { s with draft := none, rules := s.rules ++ [← draft.finish line] }
    | .other text => fail line (.unsupportedStatement text)
    | _ => return s

def step (s : State) (line : Nat) (raw : String) : Except Failure State :=
  match Statement.ofRaw? raw with
  | none => .ok s
  | some statement => s.apply line statement

/-- Takes up all lines, the first of which has the given number. -/
def run (s : State) (line : Nat) : List String → Except Failure State
  | [] => .ok s
  | raw :: rest => do (← s.step line raw).run (line + 1) rest

def finish (s : State) (lastLine : Nat) (now : String) : Except Failure Policy := do
  if let some draft := s.draft then fail lastLine (.unclosed draft.id)
  if s.rules.isEmpty then fail lastLine .noRules
  return { name := s.name.getD Policy.defaultName, compiledAt := now, rules := s.rules }

end State

def compile (text : String) (now : String) : Except Failure Policy := do
  let lines := Text.lines text
  (← State.run {} 1 lines).finish lines.length now

end ClauseAudit.Language
