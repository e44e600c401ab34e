/-!
# Names of compiled files

A compiled policy is named after its policy text: the ending of policy texts is replaced, and other
names are kept whole.
-/

namespace ClauseAudit.Batch

def policySuffix : String := ".policy.dsl"

def compiledSuffix : String := ".compiled.json"

/-- A list without an ending, if it has it. -/
def dropSuffix (suffix cs : List Char) : List Char :=
  if suffix.isSuffixOf cs then cs.take (cs.length - suffix.length) else cs

/-- The name of the file that a policy text is compiled into. -/
def outputName (source : String) : String :=
  String.ofList (dropSuffix policySuffix.toList source.toList) ++ compiledSuffix

end ClauseAudit.Batch
