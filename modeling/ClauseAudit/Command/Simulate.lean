import ClauseAudit.Command.Arguments
import ClauseAudit.Command.Outcome
import ClauseAudit.Naming.Slug
import ClauseAudit.Report.Summary

/-!
# Simulating a contract

The command that compiles one policy, simulates it against a contract and perhaps writes reports.
The reports stand in a directory named after the policy.
-/

namespace ClauseAudit.Command.Simulate

open ClauseAudit

def grammar : Grammar := { options := [⟨"out-dir", .text⟩], operands := 2 }

/-- The text of a file in UTF-8 with line feeds. -/
def readText (tree : Files.Tree) (path : String) : Except Fault String := do
  let bytes ← (tree.read (.ofText path)).mapError .file
  return Text.withLineFeeds (← (Text.readUtf8 bytes).mapError .encoding)

def reports (r : Report) : List (String × String) :=
  [("report.json", r.toJson.text (.indented 2)), ("violations.csv", r.csv),
   ("narrative.md", r.narrative)]

/-- Stores texts in a directory, up to the first fault. -/
def storeAll (tree : Files.Tree) (directory : Files.Path) :
    List (String × String) → Files.Tree × Option Files.Fault
  | [] => (tree, none)
  | (name, text) :: rest =>
    match tree.store (directory.child name) text.toUTF8.toList with
    | (tree, none) => storeAll tree directory rest
    | (tree, some fault) => (tree, some fault)

/-- Writes the reports, after the simulation was printed. -/
def writeReports (w : World) (output directory : String) (r : Report) : Outcome :=
  let base := (Files.Path.ofText directory).child (Naming.policySlug r.policy.name)
  match storeAll w.tree base (reports r) with
  | (tree, some fault) => { tree, output, result := .error (.file fault) }
  | (tree, none) =>
    { tree, output, diagnostics := "\nreports written to " ++ base.text ++ "\n", result := .ok 0 }

def runOn (w : World) (directory : Option String) (policy contract : String) : Outcome :=
  match Language.compile policy (Time.universalText w.now) with
  | .error (.diagnostic d) =>
    { tree := w.tree, result := .ok 2
      diagnostics := Batch.compileErrorCode ++ ": " ++ d.message ++ "\n" }
  | .error (.overflow fault) => w.stop (.literal fault)
  | .ok policy =>
    match policy.simulate contract with
    | .error fault => w.stop (.literal fault)
    | .ok simulation =>
      let output := simulation.toJson.text (.indented 2) ++ "\n"
      match directory with
      | none => { tree := w.tree, output, result := .ok 0 }
      | some directory => writeReports w output directory ⟨policy, .ofSimulation simulation⟩

def readBoth (w : World) (a : Arguments) : Except Fault (String × String) := do
  let policy ← readText w.tree ((a.operands[0]?).getD "")
  let contract ← readText w.tree ((a.operands[1]?).getD "")
  return (policy, contract)

def run (w : World) (a : Arguments) : Outcome :=
  match readBoth w a with
  | .error fault => w.stop fault
  | .ok (policy, contract) => runOn w (a.nonempty? "out-dir") policy contract

end ClauseAudit.Command.Simulate
