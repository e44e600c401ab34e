import ClauseAudit.Command.Arguments
import ClauseAudit.Command.Outcome

/-!
# Compiling policies

The command that compiles a directory of policies. Its arguments go before the settings.
-/

namespace ClauseAudit.Command.Compile

open ClauseAudit

def grammar : Grammar :=
  { options := [⟨"config", .text⟩, ⟨"input", .text⟩, ⟨"output", .text⟩, ⟨"pattern", .text⟩,
      ⟨"strict", .nothing⟩]
    operands := 0 }

def loggerName : String := "policylab.batch"

def itemLine (item : Batch.Item) : String :=
  let status := match item.diagnostic with
    | none => "ok"
    | some message => "FAILED (" ++ message ++ ")"
  "  " ++ item.sourceFile ++ " -> " ++ item.outputPath ++ ": " ++ status ++ "\n"

def summaryText (s : Batch.Summary) : String :=
  String.join (s.items.map itemLine) ++ "[policylab/compile] processed " ++
    Text.decimal s.processed ++ " file(s), " ++ Text.decimal s.failed ++ " failed\n"

/-- In strict runs a file that does not compile makes the command fail. -/
def exitCode (strict : Bool) (s : Batch.Summary) : Nat := if strict && s.failed ≠ 0 then 1 else 0

/-- The settings of the batch, with what the arguments say instead. -/
def batchSettings (settings : BatchSettings) (a : Arguments) : BatchSettings :=
  { inputDir := (a.nonempty? "input").getD settings.inputDir
    outputDir := (a.nonempty? "output").getD settings.outputDir
    pattern := (a.nonempty? "pattern").getD settings.pattern }

/-- The settings, and the registry in which the logger of batches is set up. -/
def prepare (w : World) (a : Arguments) : Except Fault (Settings × Logging.Registry) := do
  let settings ← w.settings (a.value? "config")
  let registry ← (Logging.Registry.setUp {} loggerName settings.logging).mapError .level
  return (settings, registry)

def run (w : World) (a : Arguments) : Outcome :=
  match prepare w a with
  | .error fault => w.stop fault
  | .ok (settings, registry) =>
    let batch := batchSettings settings.batch a
    let (s, result) := Batch.run ⟨registry, loggerName, w.now⟩ w.tree batch.inputDir
      batch.outputDir batch.pattern
    let logged := String.join s.lines
    match result with
    | .error fault => { tree := s.tree, output := logged, result := .error (.batch fault) }
    | .ok summary =>
      { tree := s.tree, output := logged ++ summaryText summary
        result := .ok (exitCode (a.isOn "strict") summary) }

end ClauseAudit.Command.Compile
