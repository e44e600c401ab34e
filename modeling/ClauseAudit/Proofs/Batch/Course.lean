import ClauseAudit.Proofs.Batch.Turns
import ClauseAudit.Proofs.Files.Glob

/-!
# The course of a run

A run that comes to a summary has made both its directories, and has given a turn to every file
that its pattern stands for in the tree it started from. The summary tells of these turns alone.
-/

namespace ClauseAudit.Batch

open Files

/-- Both directories of a run are there, in a tree that was made of another one for it. -/
structure Prepared (tree : Tree) (input output : Path) (start : Tree) (dir out : Place) : Prop where
  made : (tree.makeAll input >>= (·.makeAll output)) = .ok start
  source : start.place input = .ok dir
  target : start.place output = .ok out

/-- Where the turns of a run take place. Both directories are there, and nothing is lost of the tree
that there was before. -/
structure Stage (tree : Tree) (input output : Path) (start : Tree) (dir out : Place) : Prop extends
    Prepared tree input output start dir out where
  grows : tree.Grows start
  sound : start.Sound
  sourceDirectory : start.at? dir = some .directory
  targetDirectory : start.at? out = some .directory

section Prepared

variable {tree start : Tree} {input output : Path} {dir out : Place} (ht : tree.Sound)
  (hinput : input.Clean) (houtput : output.Clean)

include ht hinput houtput

private theorem exists_stage {t : Tree} (hsource : tree.makeAll input = .ok t)
    (htarget : t.makeAll output = .ok start) :
    ∃ dir out, Stage tree input output start dir out := by
  have hmakes := ht.makes_of_makeAll hinput hsource
  have hmakes' := hmakes.sound.makes_of_makeAll houtput htarget
  have hnode := hmakes'.grows.keeps.node?_directory hmakes.directory
  obtain ⟨dir, hdir, hsourceDirectory⟩ := Tree.node?_eq_some_iff.mp hnode
  obtain ⟨out, hout, htargetDirectory⟩ := Tree.node?_eq_some_iff.mp hmakes'.directory
  exact ⟨dir, out, ⟨bind_eq_ok_iff.mpr ⟨t, hsource, htarget⟩, hdir, hout⟩,
    hmakes.grows.trans hmakes'.grows, hmakes'.sound, hsourceDirectory, htargetDirectory⟩

theorem Prepared.stage (h : Prepared tree input output start dir out) :
    Stage tree input output start dir out := by
  obtain ⟨t, hsource, htarget⟩ := bind_eq_ok_iff.mp h.made
  obtain ⟨dir', out', hstage⟩ := exists_stage ht hinput houtput hsource htarget
  obtain rfl : dir' = dir := Except.ok.inj (hstage.source.symm.trans h.source)
  obtain rfl : out' = out := Except.ok.inj (hstage.target.symm.trans h.target)
  exact hstage

end Prepared

def Context.closing (c : Context) (summary : Summary) : List String :=
  c.log 20 ("processed " ++ Text.decimal summary.processed ++ " file(s)")
    [("processed", .int summary.processed), ("failed", .int summary.failed)]

def summaryOf (input output : Path) (us : List Turn) : Summary where
  inputDir := input.text
  outputDir := output.text
  items := us.map (·.item output)

/-- Turns given to all files that a pattern stands for, on a stage made for them. -/
structure Course (stamp : String) (tree : Tree) (input output : Path) (pattern : String)
    (start : Tree) (dir out : Place) (us : List Turn) (final : Tree) : Prop where
  stage : Stage tree input output start dir out
  files : Glob.files start input pattern = .ok (us.map Turn.path)
  clean : ∀ u ∈ us, u.path.Clean
  turns : Turns stamp out start us final

theorem Stage.course {stamp pattern : String} {tree start final : Tree} {input output : Path}
    {dir out : Place} {us : List Turn} (h : Stage tree input output start dir out)
    (hinput : input.Clean) (hfiles : Glob.files start input pattern = .ok (us.map Turn.path))
    (hturns : Turns stamp out start us final) :
    Course stamp tree input output pattern start dir out us final where
  stage := h
  files := hfiles
  clean _ hu := (Glob.files_spec h.sound hinput hfiles _ (List.mem_map_of_mem hu)).1
  turns := hturns

section Course

variable {stamp pattern : String} {tree start final : Tree} {input output : Path} {dir out : Place}
  {us : List Turn} (h : Course stamp tree input output pattern start dir out us final)

include h

theorem Course.sound : final.Sound :=
  h.turns.sound h.stage.sound h.stage.targetDirectory h.clean

theorem Course.place_output : ∀ u ∈ us,
    final.place (output.child (outputName u.name)) = .ok (u.output out) := by
  intro u hu
  have hkeeps := h.turns.keeps
  exact Tree.place_child (hkeeps.place_eq h.stage.target)
    (hkeeps.directory _ h.stage.targetDirectory)
    (entryName_outputName (h.clean u hu).noSlash_name).ne_up

theorem Course.stage_again : Stage final input output final dir out := by
  have hkeeps := h.turns.keeps
  have hsource := hkeeps.place_eq h.stage.source
  have htarget := hkeeps.place_eq h.stage.target
  have hdir := hkeeps.directory _ h.stage.sourceDirectory
  have hout := hkeeps.directory _ h.stage.targetDirectory
  have hmakeSource : final.makeAll input = .ok final :=
    Tree.makeAll_of_directory ((Tree.node?_of_place hsource).trans hdir)
  have hmakeTarget : final.makeAll output = .ok final :=
    Tree.makeAll_of_directory ((Tree.node?_of_place htarget).trans hout)
  exact ⟨⟨bind_eq_ok_iff.mpr ⟨final, hmakeSource, hmakeTarget⟩, hsource, htarget⟩, .refl final,
    h.sound, hdir, hout⟩

end Course

/-- A run comes to a summary exactly when it has a course. -/
theorem run_eq_ok_iff {c : Context} {tree : Tree} (ht : tree.Sound)
    {input output pattern : String} {s : State} {summary : Summary} :
    run c tree input output pattern = (s, .ok summary) ↔ ∃ start dir out us final,
      Course (Time.universalText c.now) tree (.ofText input) (.ofText output) pattern start dir out
        us final ∧
      summary = summaryOf (.ofText input) (.ofText output) us ∧
      s = { tree := final
            lines := us.flatMap (·.lines c (.ofText output)) ++ c.closing summary
            items := summary.items } := by
  have hinput := Path.clean_ofText input
  have houtput := Path.clean_ofText output
  constructor
  · intro h
    simp only [run] at h
    split at h
    · cases h
    next t hsource =>
    split at h
    · cases h
    next start htarget =>
    split at h
    · cases h
    next paths hfiles =>
    split at h
    · cases h
    next s' hsteps =>
    cases h
    obtain ⟨dir, out, hstage⟩ := exists_stage ht hinput houtput hsource htarget
    have hclean := fun path hpath => (Glob.files_spec hstage.sound hinput hfiles path hpath).1
    obtain ⟨us, final, rfl, hturns, rfl⟩ :=
      (steps_eq_none_iff hstage.target hstage.targetDirectory hclean).mp hsteps
    exact ⟨start, dir, out, us, final, hstage.course hinput hfiles hturns, rfl, rfl⟩
  · rintro ⟨start, dir, out, us, final, ⟨hstage, hfiles, hpaths, hturns⟩, rfl, rfl⟩
    obtain ⟨t, hsource, htarget⟩ := bind_eq_ok_iff.mp hstage.made
    have hsteps := (steps_eq_none_iff (c := c) (s := { tree := start }) hstage.target
      hstage.targetDirectory (List.forall_mem_map.mpr hpaths)).mpr ⟨us, final, rfl, hturns, rfl⟩
    simp only [run, hsource, htarget, hfiles, hsteps]
    rfl

/-! ## Two files that meet -/

/-- A directory with two empty files that are compiled into one. -/
def twins : Tree where
  current := []
  nodes := [(["in"], .directory), (["in", "a"], .file []), (["in", "a.policy.dsl"], .file [])]

def preparedTwins : Tree := twins.put ["out"] .directory

theorem sound_twins : twins.Sound := by decide

theorem prepared_twins :
    Prepared twins (.ofText "in") (.ofText "out") preparedTwins ["in"] ["out"] :=
  ⟨rfl, rfl, rfl⟩

def firstRun : Context := { registry := {}, logger := "batch", now := 0 }

theorem compile_empty (stamp : String) :
    Language.compile (fileText []) stamp = .error (.diagnostic ⟨1, .noRules⟩) :=
  rfl

end ClauseAudit.Batch
