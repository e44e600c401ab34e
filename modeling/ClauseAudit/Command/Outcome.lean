import ClauseAudit.Batch.Run
import ClauseAudit.Settings.Load

/-!
# Outcomes of commands

What a command leaves behind: the files, what it printed, and its exit code or the fault that
stopped it.
-/

namespace ClauseAudit.Command

open ClauseAudit

inductive Fault where
  | settings (fault : SettingsFault)
  | level (fault : Logging.LevelFault)
  | batch (fault : Batch.Fault)
  | file (fault : Files.Fault)
  | encoding (fault : Text.Utf8Fault)
  | literal (fault : LiteralFault)

def Fault.message : Fault → String
  | .settings fault => fault.message
  | .level fault => fault.message
  | .batch (.file fault) => fault.message
  | .batch (.pattern fault) => fault.message
  | .batch (.literal fault) => fault.message
  | .file fault => fault.message
  | .encoding fault => fault.message
  | .literal fault => fault.message

structure Outcome where
  tree : Files.Tree
  output : String := ""
  diagnostics : String := ""
  result : Except Fault Nat

structure World where
  tree : Files.Tree
  /-- The settings file that the environment names. -/
  settingsFile : Option String
  /-- The instant of universal time. -/
  now : Int

def World.settings (w : World) (a : Option String) : Except Fault Settings :=
  (Settings.load w.tree w.settingsFile a).mapError .settings

/-- A command that stops before it changes anything. -/
def World.stop (w : World) (fault : Fault) : Outcome := { tree := w.tree, result := .error fault }

end ClauseAudit.Command
