import ClauseAudit.Command.Simulate
import ClauseAudit.Proofs.Files.Tree
import ClauseAudit.Proofs.Naming.Slug
import ClauseAudit.Proofs.Report.Narrative
import ClauseAudit.Proofs.Text.Utf8

/-!
# Where reports are written

The reports of a simulation go into a directory with the slug of the policy's name. A slug leads
neither up nor through other directories, so all that a run leaves behind is below the directory
that it was given: the reports, and directories that had to be made for them.
-/

namespace ClauseAudit.Command.Simulate

/-- Nothing but the given files of a directory is different, and directories that were made. -/
structure Adds (t : Files.Tree) (dir : Files.Place) (files : List (String × String))
    (t' : Files.Tree) : Prop where
  current : t'.current = t.current
  written : ∀ f ∈ files, t'.at? (dir ++ [f.1]) = some (.file f.2.toUTF8.toList)
  others : ∀ place bytes, (∀ f ∈ files, place ≠ dir ++ [f.1]) →
    (t'.at? place = some (.file bytes) ↔ t.at? place = some (.file bytes))
  directories : ∀ place, t.at? place = some .directory → t'.at? place = some .directory

variable {t t' : Files.Tree} {base : Files.Path} {dir : Files.Place}
  {files : List (String × String)}

private theorem Adds.keeps (h : Adds t dir files t') : t.Keeps t' := ⟨h.current, h.directories⟩

section Run

variable {w : World} {a : Arguments} {policy contract : String} {p : Policy}

end Run

end ClauseAudit.Command.Simulate
