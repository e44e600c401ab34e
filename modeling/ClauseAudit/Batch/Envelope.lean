import ClauseAudit.Language.Compile
import ClauseAudit.Rule.Fingerprint

/-!
# Envelopes

The document that is written for a policy text: the compiled policy with its fingerprint, or the
diagnostic when it does not compile. A failure is never dropped.
-/

namespace ClauseAudit.Batch

inductive Outcome where
  | compiled (policy : Policy)
  | rejected (diagnostic : Language.Diagnostic)
  deriving DecidableEq, Repr

structure Envelope where
  sourceFile : String
  compiledAt : String
  outcome : Outcome
  deriving DecidableEq, Repr

/-- The code of a policy text that does not compile. -/
def compileErrorCode : String := "DSL_COMPILE_ERROR"

namespace Outcome

def isCompiled : Outcome → Bool
  | compiled _ => true
  | rejected _ => false

/-- What is said of a rejected text. -/
def message? : Outcome → Option String
  | compiled _ => none
  | rejected d => some d.message

def toJson : Outcome → Json.Value
  | compiled policy =>
    .obj [("compiledPolicy", policy.toJson), ("fingerprint", .str policy.fingerprint)]
  | rejected d => .obj [("error", .str compileErrorCode), ("message", .str d.message)]

end Outcome

namespace Envelope

/-- The envelope of a policy text; a limit of the pattern language is no diagnostic. -/
def ofText (sourceFile text now : String) : Except LiteralFault Envelope :=
  match Language.compile text now with
  | .ok policy => .ok ⟨sourceFile, now, .compiled policy⟩
  | .error (.diagnostic d) => .ok ⟨sourceFile, now, .rejected d⟩
  | .error (.overflow fault) => .error fault

def toJson (e : Envelope) : Json.Value :=
  .obj [("sourceFile", .str e.sourceFile), ("compiledAt", .str e.compiledAt),
    ("ok", .bool e.outcome.isCompiled), ("payload", e.outcome.toJson)]

/-- The text of an envelope's file: fields on lines of their own, text as it is. -/
def text (e : Envelope) : String := e.toJson.text (.indented 2)

def bytes (e : Envelope) : List UInt8 := e.text.toUTF8.toList

end Envelope

end ClauseAudit.Batch
