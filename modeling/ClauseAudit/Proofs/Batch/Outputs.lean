import ClauseAudit.Proofs.Batch.Course

/-!
# Outputs that are kept

Whatever the pattern of a run is, every file gets an envelope. Of the files that meet in one output,
only the last has its envelope there in the end. So no output is lost exactly when no two files of
the run meet.
-/

namespace ClauseAudit.Batch

open Files

variable {u v : Turn} {us : List Turn}

/-- The last of the turns whose files meet a given one. -/
def IsLast (us : List Turn) (u v : Turn) : Prop :=
  ∃ before after, us = before ++ v :: after ∧ Meet v.name u.name ∧
    ∀ w ∈ after, ¬Meet w.name u.name

private theorem exists_isLast (hu : u ∈ us) : ∃ v, IsLast us u v := by
  obtain ⟨before, after, rfl⟩ := List.append_of_mem hu
  clear hu
  -- The turns after the given one are taken off from the end, up to one that meets it.
  induction after using List.reverseRecOn with
  | nil => exact ⟨u, before, [], rfl, .same _, by simp⟩
  | append_singleton after w ih =>
    by_cases hw : Meet w.name u.name
    · exact ⟨w, before ++ u :: after, [], by simp, hw, by simp⟩
    · obtain ⟨v, front, rest, hsplit, hv, hrest⟩ := ih
      refine ⟨v, front, rest ++ [w], ?_, hv, ?_⟩
      · rw [← List.cons_append, ← List.append_assoc, hsplit, List.append_assoc, List.cons_append]
      · simpa [or_imp, forall_and] using ⟨hrest, hw⟩

/-- No output is lost: each file has an output path of its own, and its envelope is there. -/
structure Kept (output : Path) (us : List Turn) (final : Tree) : Prop where
  apart : (us.map fun u => (u.item output).outputPath).Nodup
  own : ∀ u ∈ us, final.read (output.child (outputName u.name)) = .ok u.envelope.bytes

section Course

variable {stamp pattern : String} {tree start final : Tree} {input output : Path} {dir out : Place}
  (h : Course stamp tree input output pattern start dir out us final)

include h

private theorem Course.read_output (hu : u ∈ us) {bytes : List UInt8} :
    final.read (output.child (outputName u.name)) = .ok bytes ↔
      final.at? (u.output out) = some (.file bytes) := by
  rw [Tree.read_eq_ok_iff, Tree.node?_of_place (h.place_output u hu)]

/-- The last of the files that meet leaves its envelope. -/
theorem Course.read_last (hu : u ∈ us) (hv : IsLast us u v) :
    final.read (output.child (outputName u.name)) = .ok v.envelope.bytes := by
  obtain ⟨before, after, hsplit, hmeet, hlast⟩ := hv
  have hlast' : ∀ w ∈ after, ¬Meet w.name v.name := by
    intro w hw hwv
    exact hlast w hw (hwv.trans hmeet)
  rw [h.read_output hu, ← (Turn.output_eq_iff out).mpr hmeet]
  exact (hsplit ▸ h.turns).at?_last hlast'

theorem Course.kept_iff : Kept output us final ↔ Apart us := by
  constructor
  · intro hkept
    refine (List.pairwise_map.mp hkept.apart).imp ?_
    exact fun hne hmeet => hne ((Turn.outputPath_eq_iff output).mpr hmeet)
  · intro hapart
    constructor
    · refine List.pairwise_map.mpr (hapart.imp ?_)
      exact fun hmeet heq => hmeet ((Turn.outputPath_eq_iff output).mp heq)
    · intro u hu
      rw [h.read_output hu]
      exact h.turns.at?_of_mem hapart u hu

end Course

private theorem ofText_empty (name stamp : String) :
    Envelope.ofText name (fileText []) stamp = .ok ⟨name, stamp, .rejected ⟨1, .noRules⟩⟩ := by
  rw [Envelope.ofText, compile_empty]

def emptyTurn (stamp name : String) : Turn where
  path := .child (.ofText "in") name
  bytes := []
  envelope := ⟨name, stamp, .rejected ⟨1, .noRules⟩⟩

private theorem name_emptyTurn (stamp name : String) : (emptyTurn stamp name).name = name :=
  Path.name_child _ name

private theorem ready_emptyTurn (stamp : String) {name : String} {out : Place} {t : Tree}
    (hread : t.read (.child (.ofText "in") name) = .ok [])
    (hfree : t.at? (out ++ [outputName name]) ≠ some .directory) :
    (emptyTurn stamp name).Ready stamp out t := by
  refine ⟨hread, ?_, ?_⟩
  · rw [name_emptyTurn]
    exact ofText_empty name stamp
  · rwa [Turn.output, name_emptyTurn]

def twinTurns (stamp : String) : List Turn :=
  [emptyTurn stamp "a", emptyTurn stamp "a.policy.dsl"]

private theorem files_twins (stamp : String) :
    Glob.files preparedTwins (.ofText "in") "*" = .ok ((twinTurns stamp).map Turn.path) := by
  let paths : List Path := [.child (.ofText "in") "a", .child (.ofText "in") "a.policy.dsl"]
  have hfound : Glob.files preparedTwins (.ofText "in") "*" = .ok (paths.mergeSort Path.le) := rfl
  rw [hfound, List.mergeSort_of_pairwise (by decide)]
  rfl

private theorem forall_mem_twinTurns {stamp : String} {P : Turn → Prop} :
    (∀ u ∈ twinTurns stamp, P u) ↔ P (emptyTurn stamp "a") ∧ P (emptyTurn stamp "a.policy.dsl") := by
  simp [twinTurns]

private theorem ready_twins (stamp : String) :
    ∀ u ∈ twinTurns stamp, u.Ready stamp ["out"] preparedTwins := by
  have hfree {place : Place} (h : preparedTwins.at? place = none) :
      preparedTwins.at? place ≠ some .directory := by
    simp [h]
  exact forall_mem_twinTurns.mpr
    ⟨ready_emptyTurn stamp rfl (hfree rfl), ready_emptyTurn stamp rfl (hfree rfl)⟩

private theorem sources_twins (stamp : String) : ∀ u ∈ twinTurns stamp, ∃ source,
    preparedTwins.place u.path = .ok source ∧ ∀ v ∈ twinTurns stamp, v.output ["out"] ≠ source :=
  forall_mem_twinTurns.mpr ⟨⟨["in", "a"], rfl, by simp [Turn.output]⟩,
    ⟨["in", "a.policy.dsl"], rfl, by simp [Turn.output]⟩⟩

private theorem clean_twins (stamp : String) : ∀ u ∈ twinTurns stamp, u.path.Clean := by
  have hclean {name : String} (h : EntryName name) : (Path.child (.ofText "in") name).Clean :=
    (Path.clean_ofText "in").child fun _ => h
  exact forall_mem_twinTurns.mpr
    ⟨hclean (by decide), hclean (by decide)⟩

private theorem exists_course_twins (stamp : String) : ∃ final, Course stamp twins (.ofText "in")
    (.ofText "out") "*" preparedTwins ["in"] ["out"] (twinTurns stamp) final := by
  have hstage := prepared_twins.stage sound_twins (Path.clean_ofText _) (Path.clean_ofText _)
  obtain ⟨final, hturns⟩ := (Turns.exists_iff (sources_twins stamp)).mpr (ready_twins stamp)
  exact ⟨final, hstage, files_twins stamp, clean_twins stamp, hturns⟩

private theorem meet_twins : Meet "a.policy.dsl" "a" := by
  have hname : "a.policy.dsl" = "a" ++ policySuffix := by simp [policySuffix]
  rw [hname]
  exact .ending (by decide)

/-- What is left of the outputs of a run, whatever its pattern is: each file is compiled into an
envelope of its own, the file at an output path has the envelope of the last file that meets there,
and no output is lost exactly when no two files of the run meet. -/
theorem outputs_of_run {tree : Tree} (ht : tree.Sound) {c : Context}
    {input output pattern : String} {s : State} {summary : Summary}
    (h : run c tree input output pattern = (s, .ok summary)) :
    ∃ start dir out us, Course (Time.universalText c.now) tree (.ofText input) (.ofText output)
        pattern start dir out us s.tree ∧
      summary.items = us.map (·.item (.ofText output)) ∧
      (∀ u ∈ us, Envelope.ofText u.name (fileText u.bytes) (Time.universalText c.now) =
        .ok u.envelope) ∧
      (∀ u ∈ us, ∃ v, IsLast us u v ∧
        s.tree.read (.child (.ofText output) (outputName u.name)) = .ok v.envelope.bytes) ∧
      (Kept (.ofText output) us s.tree ↔ Apart us) := by
  obtain ⟨start, dir, out, us, final, hcourse, rfl, rfl⟩ := (run_eq_ok_iff ht).mp h
  refine ⟨start, dir, out, us, hcourse, rfl, hcourse.turns.compiles, ?_, hcourse.kept_iff⟩
  intro u hu
  obtain ⟨v, hv⟩ := exists_isLast hu
  exact ⟨v, hv, hcourse.read_last hu hv⟩

/-- A run over two files that meet comes to a summary. -/
theorem outputs_of_twins : ∃ s summary,
    run firstRun twins "in" "out" "*" = (s, .ok summary) ∧ ∃ start dir out us,
      Course (Time.universalText firstRun.now) twins (.ofText "in") (.ofText "out") "*" start dir
        out us s.tree ∧
      summary.items = us.map (·.item (.ofText "out")) ∧
      (∀ u ∈ us, Envelope.ofText u.name (fileText u.bytes) (Time.universalText firstRun.now) =
        .ok u.envelope) ∧
      (∀ u ∈ us, ∃ v, IsLast us u v ∧
        s.tree.read (.child (.ofText "out") (outputName u.name)) = .ok v.envelope.bytes) ∧
      (Kept (.ofText "out") us s.tree ↔ Apart us) := by
  obtain ⟨final, hcourse⟩ := exists_course_twins (Time.universalText firstRun.now)
  have hrun := (run_eq_ok_iff (c := firstRun) sound_twins).mpr
    ⟨_, _, _, _, _, hcourse, rfl, rfl⟩
  exact ⟨_, _, hrun, outputs_of_run sound_twins hrun⟩

/-- An output of this run is lost. Both items have one output path, and the diagnostic there is of
the second file. -/
theorem first_twin_is_lost : ∃ s summary,
    run firstRun twins "in" "out" "*" = (s, .ok summary) ∧
      summary.items.map (·.sourceFile) = ["a", "a.policy.dsl"] ∧
      summary.items.map (·.outputPath) = ["out/a.compiled.json", "out/a.compiled.json"] ∧
      ¬(summary.items.map (·.outputPath)).Nodup ∧
      s.tree.read (.ofText "out/a.compiled.json") = .ok (Envelope.bytes
        ⟨"a.policy.dsl", Time.universalText firstRun.now, .rejected ⟨1, .noRules⟩⟩) := by
  obtain ⟨final, hcourse⟩ := exists_course_twins (Time.universalText firstRun.now)
  have hrun := (run_eq_ok_iff (c := firstRun) sound_twins).mpr
    ⟨_, _, _, _, _, hcourse, rfl, rfl⟩
  let stamp := Time.universalText firstRun.now
  have hlast : IsLast (twinTurns stamp) (emptyTurn stamp "a") (emptyTurn stamp "a.policy.dsl") := by
    refine ⟨[emptyTurn stamp "a"], [], rfl, ?_, by simp⟩
    rw [name_emptyTurn, name_emptyTurn]
    exact meet_twins
  have hread := hcourse.read_last List.mem_cons_self hlast
  rw [name_emptyTurn] at hread
  exact ⟨_, _, hrun, rfl, rfl, by decide, hread⟩

end ClauseAudit.Batch
