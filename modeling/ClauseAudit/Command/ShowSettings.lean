import ClauseAudit.Command.Outcome

/-!
# Showing settings

The command that prints the settings in force, as far as runs depend on them.
-/

namespace ClauseAudit.Command.ShowSettings

open ClauseAudit

def text (s : Settings) : String :=
  "Project: " ++ s.env.projectName ++ "\nBatch input: " ++ s.batch.inputDir
    ++ "\nBatch output: " ++ s.batch.outputDir ++ "\nAPI port: " ++ Text.signedDecimal s.api.port
    ++ "\nLog level: " ++ s.logging.level ++ "\n"

def run (w : World) : Outcome :=
  match w.settings none with
  | .error fault => w.stop fault
  | .ok settings => { tree := w.tree, output := text settings, result := .ok 0 }

end ClauseAudit.Command.ShowSettings
