import ClauseAudit.Digest.Algorithm
import ClauseAudit.Json.Sorted
import ClauseAudit.Text.Lines

/-!
# Digests of values

A value is digested through its canonical text, so that the order of object fields does not
matter. A short identifier is the beginning of a digest.
-/

namespace ClauseAudit.Digest

def ofValue (digest : List UInt8 → List UInt8) (v : Json.Value) : String :=
  hex (digest v.canonicalText.toUTF8.toList)

/-- The beginning of the SHA-256 digest of a value; a negative length leaves out that many digits
at the end. -/
def shortId (v : Json.Value) (length : Int) : String :=
  String.ofList (Text.takeSigned (ofValue Sha256.sha256 v).toList length)

/-- Why a value has no digest under a named algorithm. -/
inductive Fault where
  | unknownAlgorithm (name : String)
  /-- The algorithm gives digests of any length and needs to be told one. -/
  | lengthNeeded
  deriving DecidableEq, Repr

def Fault.message : Fault → String
  | unknownAlgorithm name => "unsupported hash type " ++ name
  | lengthNeeded => "hexdigest() missing required argument 'length' (pos 1)"

def ofValueBy (name : String) (v : Json.Value) : Except Fault String :=
  match Algorithm.ofName? name with
  | none => .error (.unknownAlgorithm name)
  | some .extendable => .error .lengthNeeded
  | some (.fixed digest) => .ok (ofValue digest v)

end ClauseAudit.Digest
