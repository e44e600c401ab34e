import ClauseAudit.Proofs.Batch.Outputs
import ClauseAudit.Proofs.Text.LineEnds
import ClauseAudit.Proofs.Text.Utf8
import Mathlib.Data.List.Sort
import Mathlib.Data.Set.Card

/-!
# Runs over policy texts

A run over the policy texts of a directory leaves out none of them, keeps them apart, and can be
done again with the same result, wherever its output directory is. What it writes is never taken
for a policy text, so it does not change what it still has to read.
-/

namespace ClauseAudit.Batch

open Files

/-! ## What is compiled -/

/-- A text is compiled as it was decoded, when its carriage returns belong to line ends. -/
theorem compile_fileText (stamp : String) {bytes : List UInt8}
    (h : Text.PairedReturns (Text.repairUtf8 bytes).toList) :
    Language.compile (fileText bytes) stamp = Language.compile (Text.repairUtf8 bytes) stamp := by
  have hlines : Text.lines (fileText bytes) = Text.lines (Text.repairUtf8 bytes) :=
    Text.lines_withLineFeeds h
  unfold Language.compile
  rw [hlines]

private theorem Envelope.ofText_fileText (sourceFile stamp : String) {bytes : List UInt8}
    (h : Text.PairedReturns (Text.repairUtf8 bytes).toList) :
    ofText sourceFile (fileText bytes) stamp = ofText sourceFile (Text.repairUtf8 bytes) stamp := by
  unfold ofText
  rw [compile_fileText stamp h]

private theorem Envelope.exists_ofText_iff {sourceFile text stamp : String} :
    (∃ e, ofText sourceFile text stamp = .ok e) ↔
      ∀ fault, Language.compile text stamp ≠ .error (.overflow fault) := by
  unfold ofText
  split
  · next h => simp [h]
  · next h => simp [h]
  · next h => simp [h]

private theorem Envelope.message?_isSome_iff {sourceFile text stamp : String} {e : Envelope}
    (h : ofText sourceFile text stamp = .ok e) : e.outcome.message?.isSome = true ↔
      ∃ failure, Language.compile text stamp = .error failure := by
  unfold ofText at h
  split at h
  · next hcompile =>
    cases h
    simp [Outcome.message?, hcompile]
  · next hcompile =>
    cases h
    simp [Outcome.message?, hcompile]
  · cases h

/-! ## Policy texts of a directory -/

def HasPolicy (t : Tree) (dir : Place) (name : String) (bytes : List UInt8) : Prop :=
  IsPolicyName name ∧ t.at? (dir ++ [name]) = some (.file bytes)

variable {t : Tree} {input : Path} {dir out : Place} {stamp : String}

private theorem IsPolicyName.ne_up {name : String} (h : IsPolicyName name) : name ≠ ".." := by
  rintro rfl
  exact absurd h (by decide)

private theorem matchesName_iff {name : String} :
    Glob.matchesName "*.policy.dsl" name = true ↔ IsPolicyName name := by
  have hpattern : "*.policy.dsl" = "*" ++ policySuffix := by simp [policySuffix]
  rw [hpattern]
  exact Glob.matchesName_star_iff (by simp [policySuffix, Glob.Plain])

/-- The turns of the policy texts of a directory, in the order of their names. -/
structure PolicyTurns (t : Tree) (input : Path) (dir : Place) (us : List Turn) : Prop where
  sorted : (us.map Turn.name).Pairwise (· < ·)
  complete : ∀ name, name ∈ us.map Turn.name ↔ ∃ bytes, HasPolicy t dir name bytes
  path : ∀ u ∈ us, u.path = input.child u.name

/-- Nothing stops a run over the policy texts of a directory: no directory stands where an envelope
is put, and no text passes a limit of the pattern language. -/
structure Unhindered (stamp : String) (t : Tree) (dir out : Place) : Prop where
  free : ∀ name bytes, HasPolicy t dir name bytes →
    t.at? (out ++ [outputName name]) ≠ some .directory
  compiles : ∀ name bytes, HasPolicy t dir name bytes →
    ∀ fault, Language.compile (fileText bytes) stamp ≠ .error (.overflow fault)

private theorem output_ne_policy (u : Turn) {name : String} (h : IsPolicyName name) :
    u.output out ≠ dir ++ [name] := by
  intro heq
  have hlast := congrArg List.getLast? heq
  rw [Turn.output, List.getLast?_concat, List.getLast?_concat, Option.some.injEq] at hlast
  exact not_isPolicyName_outputName u.name (hlast ▸ h)

private theorem exists_map_eq {α β : Type} {f : α → β} {P : α → Prop} {bs : List β}
    (h : ∀ b ∈ bs, ∃ a, f a = b ∧ P a) : ∃ as : List α, as.map f = bs ∧ ∀ a ∈ as, P a := by
  induction bs with
  | nil => exact ⟨[], rfl, by simp⟩
  | cons b bs ih =>
    obtain ⟨⟨a, rfl, ha⟩, hrest⟩ := List.forall_mem_cons.mp h
    obtain ⟨as, rfl, has⟩ := ih hrest
    exact ⟨a :: as, rfl, List.forall_mem_cons.mpr ⟨ha, has⟩⟩

section Directory

variable (hplace : t.place input = .ok dir) (hdir : t.at? dir = some .directory)

include hplace hdir

private theorem exists_files_eq_ok (ht : t.Sound) :
    ∃ names : List String, Glob.files t input "*.policy.dsl" = .ok (names.map input.child) ∧
      names.Pairwise (· < ·) ∧ ∀ name, name ∈ names ↔ ∃ bytes, HasPolicy t dir name bytes := by
  have hparse : Glob.parse "*.policy.dsl" = .ok ([.wild "*.policy.dsl"], false) := rfl
  obtain ⟨names, hfiles, hsorted, hmem⟩ := Glob.files_of_wild ht hparse hplace hdir
  refine ⟨names, hfiles, hsorted, fun name => ?_⟩
  rw [hmem, matchesName_iff]
  exact exists_and_left.symm

private theorem files_eq_ok_iff (ht : t.Sound) {us : List Turn} :
    Glob.files t input "*.policy.dsl" = .ok (us.map Turn.path) ↔ PolicyTurns t input dir us := by
  obtain ⟨names, hfiles, hsorted, hcomplete⟩ := exists_files_eq_ok hplace hdir ht
  rw [hfiles]
  constructor
  · intro h
    have hpaths : us.map Turn.path = names.map input.child := (Except.ok.inj h).symm
    have hnames : us.map Turn.name = names := by
      have hlast := congrArg (List.map Path.name) hpaths
      rw [List.map_map, List.map_map] at hlast
      exact hlast.trans (List.map_id'' (Path.name_child input) names)
    refine ⟨hnames ▸ hsorted, fun name => hnames ▸ hcomplete name, ?_⟩
    intro u hu
    obtain ⟨name, _, hname⟩ := List.mem_map.mp (hpaths ▸ List.mem_map_of_mem hu)
    rw [Turn.name, ← hname, Path.name_child]
  · intro h
    have hnames : names = us.map Turn.name :=
      hsorted.eq_of_mem_iff h.sorted fun name => (hcomplete name).trans (h.complete name).symm
    rw [hnames, List.map_map]
    exact congrArg Except.ok (List.map_congr_left fun u hu => (h.path u hu).symm)

private theorem ready_iff {u : Turn} (hname : IsPolicyName u.name)
    (hpath : u.path = input.child u.name) : u.Ready stamp out t ↔ HasPolicy t dir u.name u.bytes ∧
      Envelope.ofText u.name (fileText u.bytes) stamp = .ok u.envelope ∧
      t.at? (out ++ [outputName u.name]) ≠ some .directory := by
  have hread : t.read u.path = .ok u.bytes ↔ HasPolicy t dir u.name u.bytes := by
    rw [hpath, Tree.read_eq_ok_iff,
      Tree.node?_of_place (Tree.place_child hplace hdir hname.ne_up)]
    exact (and_iff_right hname).symm
  rw [← hread]
  exact ⟨fun h => ⟨h.read, h.compiles, h.free⟩, fun h => ⟨h.1, h.2.1, h.2.2⟩⟩

private theorem PolicyTurns.sources {us : List Turn} (h : PolicyTurns t input dir us) :
    ∀ u ∈ us, ∃ source, t.place u.path = .ok source ∧ ∀ v ∈ us, v.output out ≠ source := by
  intro u hu
  obtain ⟨_, hname, _⟩ := (h.complete _).mp (List.mem_map_of_mem hu)
  refine ⟨dir ++ [u.name], ?_, ?_⟩
  · rw [h.path u hu]
    exact Tree.place_child hplace hdir hname.ne_up
  · exact fun v _ => output_ne_policy v hname

private theorem PolicyTurns.read {us : List Turn} {final : Tree} (h : PolicyTurns t input dir us)
    (hturns : Turns stamp out t us final) : ∀ u ∈ us, HasPolicy t dir u.name u.bytes ∧
      Envelope.ofText u.name (fileText u.bytes) stamp = .ok u.envelope ∧
      t.at? (out ++ [outputName u.name]) ≠ some .directory := by
  intro u hu
  obtain ⟨_, hname, _⟩ := (h.complete _).mp (List.mem_map_of_mem hu)
  rw [← ready_iff hplace hdir hname (h.path u hu)]
  exact (Turns.exists_iff (h.sources hplace hdir)).mp ⟨final, hturns⟩ u hu

private theorem PolicyTurns.exists_turn {us : List Turn} {final : Tree}
    (h : PolicyTurns t input dir us)
    (hturns : Turns stamp out t us final) {name : String} {bytes : List UInt8}
    (hpolicy : HasPolicy t dir name bytes) : ∃ u ∈ us, u.name = name ∧ u.bytes = bytes := by
  obtain ⟨u, hu, rfl⟩ := List.mem_map.mp ((h.complete name).mpr ⟨bytes, hpolicy⟩)
  have hread := (h.read hplace hdir hturns u hu).1
  exact ⟨u, hu, rfl, by simpa using hread.2.symm.trans hpolicy.2⟩

/-- The policy texts have their turns exactly when nothing stops them. -/
theorem exists_turns_iff (ht : t.Sound) :
    (∃ us final, PolicyTurns t input dir us ∧ Turns stamp out t us final) ↔
      Unhindered stamp t dir out := by
  constructor
  · rintro ⟨us, final, hus, hturns⟩
    constructor
    · intro name bytes hpolicy
      obtain ⟨u, hu, rfl, rfl⟩ := hus.exists_turn hplace hdir hturns hpolicy
      exact (hus.read hplace hdir hturns u hu).2.2
    · intro name bytes hpolicy
      obtain ⟨u, hu, rfl, rfl⟩ := hus.exists_turn hplace hdir hturns hpolicy
      exact Envelope.exists_ofText_iff.mp ⟨_, (hus.read hplace hdir hturns u hu).2.1⟩
  · intro h
    obtain ⟨names, hfiles, _, hcomplete⟩ := exists_files_eq_ok hplace hdir ht
    have hturn : ∀ path ∈ names.map input.child,
        ∃ u : Turn, u.path = path ∧ u.Ready stamp out t := by
      intro path hpath
      obtain ⟨name, hname, rfl⟩ := List.mem_map.mp hpath
      obtain ⟨bytes, hpolicy⟩ := (hcomplete name).mp hname
      obtain ⟨e, he⟩ := Envelope.exists_ofText_iff.mpr (h.compiles name bytes hpolicy)
      let u : Turn := ⟨input.child name, bytes, e⟩
      have hu : u.name = name := Path.name_child input name
      refine ⟨u, rfl, (ready_iff hplace hdir (hu ▸ hpolicy.1) (hu ▸ rfl)).mpr ?_⟩
      rw [hu]
      exact ⟨hpolicy, he, h.free name bytes hpolicy⟩
    obtain ⟨us, hus, hready⟩ := exists_map_eq hturn
    have hpolicies := (files_eq_ok_iff hplace hdir ht).mp (hus ▸ hfiles)
    obtain ⟨final, hturns⟩ := (Turns.exists_iff (hpolicies.sources hplace hdir)).mpr hready
    exact ⟨us, final, hpolicies, hturns⟩

end Directory

private theorem PolicyTurns.apart {us : List Turn} (h : PolicyTurns t input dir us) : Apart us := by
  have hname : ∀ u ∈ us, IsPolicyName u.name := by
    intro u hu
    obtain ⟨_, hname, _⟩ := (h.complete _).mp (List.mem_map_of_mem hu)
    exact hname
  refine (List.pairwise_map.mp h.sorted).imp_of_mem ?_
  intro u v hu hv hlt hmeet
  rw [hmeet.eq (hname u hu) (hname v hv)] at hlt
  exact Std.Irrefl.irrefl v.name hlt

/-! ## What a run over policy texts does -/

private theorem ncard_eq_length {α : Type} {l : List α} {s : Set α} (hl : l.Nodup)
    (h : ∀ a, a ∈ l ↔ a ∈ s) : s.ncard = l.length := by
  classical
  have hs : s = l.toFinset := by
    ext a
    simp [h]
  rw [hs, Set.ncard_coe_finset, List.toFinset_card_of_nodup hl]

/-- What is reported of a policy text, and what is stored for it. -/
structure Item.Accounts (i : Item) (stamp : String) (t : Tree) (dir : Place) (output : Path)
    (final : Tree) (stem : String) (bytes : List UInt8) (e : Envelope) : Prop where
  source : i.sourceFile = stem ++ policySuffix
  read : t.at? (dir ++ [i.sourceFile]) = some (.file bytes)
  compiles : Envelope.ofText i.sourceFile (fileText bytes) stamp = .ok e
  /-- The text is compiled as it was decoded, unless line ends in it had to be made alike. -/
  compilesDecoded : Text.PairedReturns (Text.repairUtf8 bytes).toList →
    Envelope.ofText i.sourceFile (Text.repairUtf8 bytes) stamp = .ok e
  diagnostic : i.diagnostic = e.outcome.message?
  outputPath : i.outputPath = (output.child (stem ++ compiledSuffix)).text
  stored : final.read (output.child (stem ++ compiledSuffix)) = .ok e.bytes

/-- All policy texts of a directory have been compiled into files of another one, each into its
own, and no other file was touched. -/
structure Completed (stamp : String) (tree : Tree) (dir out : Place) (output : Path)
    (summary : Summary) (final : Tree) : Prop where
  sorted : (summary.items.map (·.sourceFile)).Pairwise (· < ·)
  complete : ∀ name, name ∈ summary.items.map (·.sourceFile) ↔
    ∃ bytes, HasPolicy tree dir name bytes
  apart : (summary.items.map (·.outputPath)).Nodup
  accounts : ∀ i ∈ summary.items,
    ∃ stem bytes e, i.Accounts stamp tree dir output final stem bytes e
  processed : summary.processed = {name | ∃ bytes, HasPolicy tree dir name bytes}.ncard
  failed : summary.failed = {name | ∃ bytes failure, HasPolicy tree dir name bytes ∧
    Language.compile (fileText bytes) stamp = .error failure}.ncard
  unchanged : ∀ place, (∀ i ∈ summary.items, out ++ [outputName i.sourceFile] ≠ place) →
    ∀ bytes, final.at? place = some (.file bytes) ↔ tree.at? place = some (.file bytes)
  directories : ∀ place, tree.at? place = some .directory → final.at? place = some .directory

private theorem hasPolicy_iff_of_grows {t' : Tree} (h : t.Grows t') {name : String}
    {bytes : List UInt8} : HasPolicy t' dir name bytes ↔ HasPolicy t dir name bytes :=
  and_congr_right fun _ => h.file_iff

section Course

variable {tree start final : Tree} {output : Path} {us : List Turn}
  (h : Course stamp tree input output "*.policy.dsl" start dir out us final)

include h

private theorem Course.policyTurns : PolicyTurns start input dir us :=
  (files_eq_ok_iff h.stage.source h.stage.sourceDirectory h.stage.sound).mp h.files

private theorem Course.hasPolicy : ∀ u ∈ us, HasPolicy tree dir u.name u.bytes := by
  intro u hu
  rw [← hasPolicy_iff_of_grows h.stage.grows]
  exact (h.policyTurns.read h.stage.source h.stage.sourceDirectory h.turns u hu).1

private theorem Course.hasPolicy_iff {name : String} {bytes : List UInt8} :
    HasPolicy tree dir name bytes ↔ ∃ u ∈ us, u.name = name ∧ u.bytes = bytes := by
  constructor
  · rw [← hasPolicy_iff_of_grows h.stage.grows]
    exact h.policyTurns.exists_turn h.stage.source h.stage.sourceDirectory h.turns
  · rintro ⟨u, hu, rfl, rfl⟩
    exact h.hasPolicy u hu

private theorem Course.kept : Kept output us final := h.kept_iff.mpr h.policyTurns.apart

private theorem Course.accounts : ∀ u ∈ us, ∃ stem,
    (u.item output).Accounts stamp tree dir output final stem u.bytes u.envelope := by
  intro u hu
  obtain ⟨hname, hread⟩ := h.hasPolicy u hu
  have hcompiles := h.turns.compiles u hu
  obtain ⟨stem, hstem⟩ := isPolicyName_iff.mp hname
  have houtput : outputName u.name = stem ++ compiledSuffix := by rw [hstem, outputName_append]
  refine ⟨stem, hstem, hread, hcompiles, ?_, rfl, ?_, ?_⟩
  · exact fun hpaired => (Envelope.ofText_fileText _ _ hpaired).symm.trans hcompiles
  · exact congrArg (fun name => (output.child name).text) houtput
  · rw [← houtput]
    exact h.kept.own u hu

private theorem Course.failed_eq : (summaryOf input output us).failed =
    {name | ∃ bytes failure, HasPolicy tree dir name bytes ∧
      Language.compile (fileText bytes) stamp = .error failure}.ncard := by
  let rejected := (us.filter fun u => (u.item output).diagnostic.isSome).map Turn.name
  have hcount : (summaryOf input output us).failed = rejected.length := by
    rw [Summary.failed, summaryOf, List.countP_map, List.countP_eq_length_filter, List.length_map]
    rfl
  have hnodup : rejected.Nodup :=
    (List.filter_sublist.map _).nodup h.policyTurns.sorted.nodup
  rw [hcount]
  refine (ncard_eq_length hnodup fun name => ?_).symm
  constructor
  · intro hname
    obtain ⟨u, hu, rfl⟩ := List.mem_map.mp hname
    obtain ⟨hu, hdiagnostic⟩ := List.mem_filter.mp hu
    obtain ⟨failure, hfailure⟩ :=
      (Envelope.message?_isSome_iff (h.turns.compiles u hu)).mp hdiagnostic
    exact ⟨u.bytes, failure, h.hasPolicy u hu, hfailure⟩
  · rintro ⟨bytes, failure, hpolicy, hfailure⟩
    obtain ⟨u, hu, rfl, rfl⟩ := h.hasPolicy_iff.mp hpolicy
    have hdiagnostic :=
      (Envelope.message?_isSome_iff (h.turns.compiles u hu)).mpr ⟨failure, hfailure⟩
    exact List.mem_map_of_mem (List.mem_filter.mpr ⟨hu, hdiagnostic⟩)

private theorem Course.completed :
    Completed stamp tree dir out output (summaryOf input output us) final := by
  have hpolicies := h.policyTurns
  have hgrows := h.stage.grows
  have hnames : (summaryOf input output us).items.map (·.sourceFile) = us.map Turn.name := by
    rw [summaryOf, List.map_map]
    rfl
  have hcomplete (name : String) : name ∈ us.map Turn.name ↔
      ∃ bytes, HasPolicy tree dir name bytes := by
    simp only [hpolicies.complete, hasPolicy_iff_of_grows hgrows]
  constructor
  · rw [hnames]
    exact hpolicies.sorted
  · rw [hnames]
    exact hcomplete
  · rw [summaryOf, List.map_map]
    exact h.kept.apart
  · intro i hi
    obtain ⟨u, hu, rfl⟩ := List.mem_map.mp hi
    obtain ⟨stem, haccounts⟩ := h.accounts u hu
    exact ⟨stem, u.bytes, u.envelope, haccounts⟩
  · refine ((ncard_eq_length hpolicies.sorted.nodup hcomplete).trans ?_).symm
    rw [Summary.processed, ← hnames, List.length_map]
  · exact h.failed_eq
  · intro place hplace bytes
    have hapart : ∀ u ∈ us, u.output out ≠ place :=
      fun u hu => hplace (u.item output) (List.mem_map_of_mem hu)
    rw [h.turns.at?_of_apart hapart, hgrows.file_iff]
  · exact fun place hplace => h.turns.keeps.directory _ (hgrows.keeps.directory _ hplace)

/-- The same run once more has the same turns, and changes nothing. -/
theorem Course.again : ∃ final',
    Course stamp final input output "*.policy.dsl" final dir out us final' ∧
      ∀ place, final'.at? place = final.at? place := by
  have hpolicies := h.policyTurns
  have hstored := h.turns.at?_of_mem hpolicies.apart
  have hstage := h.stage_again
  -- No envelope was put over a policy text, so the directory has the same ones.
  have hkept {name : String} {bytes : List UInt8} :
      HasPolicy final dir name bytes ↔ HasPolicy start dir name bytes := by
    refine and_congr_right fun hname => ?_
    rw [h.turns.at?_of_apart]
    exact fun u _ => output_ne_policy u hname
  have hagain : PolicyTurns final input dir us := by
    refine ⟨hpolicies.sorted, fun name => ?_, hpolicies.path⟩
    simp only [hkept, hpolicies.complete]
  have hready : ∀ u ∈ us, u.Ready stamp out final := by
    intro u hu
    obtain ⟨hpolicy, hcompiles, _⟩ :=
      hpolicies.read h.stage.source h.stage.sourceDirectory h.turns u hu
    rw [ready_iff hstage.source hstage.sourceDirectory hpolicy.1 (hpolicies.path u hu), hkept]
    refine ⟨hpolicy, hcompiles, fun hlost => ?_⟩
    cases (hstored u hu).symm.trans hlost
  obtain ⟨final', hturns⟩ :=
    (Turns.exists_iff (hagain.sources hstage.source hstage.sourceDirectory)).mpr hready
  have hfiles := (files_eq_ok_iff hstage.source hstage.sourceDirectory h.sound).mpr hagain
  refine ⟨final', ⟨hstage, hfiles, h.clean, hturns⟩, fun place => ?_⟩
  by_cases hplace : ∀ u ∈ us, u.output out ≠ place
  · exact hturns.at?_of_apart hplace
  · push Not at hplace
    obtain ⟨u, hu, rfl⟩ := hplace
    rw [hturns.at?_of_mem hpolicies.apart u hu, hstored u hu]

end Course

/-- A run over policy texts is complete, isolated and repeatable. It comes to a summary exactly
when its directories can be made and nothing stops it. Then every policy text is compiled into a
file of its own and no other file is touched, and at the same instant the run comes to the same
summary again and changes nothing. -/
theorem run_policies {tree : Tree} (ht : tree.Sound) (c : Context) (input output : String) :
    ((∃ s summary, run c tree input output "*.policy.dsl" = (s, .ok summary)) ↔
      ∃ start dir out, Prepared tree (.ofText input) (.ofText output) start dir out ∧
        Unhindered (Time.universalText c.now) start dir out) ∧
    ∀ s summary, run c tree input output "*.policy.dsl" = (s, .ok summary) →
      (∃ start dir out, Prepared tree (.ofText input) (.ofText output) start dir out ∧
        Completed (Time.universalText c.now) tree dir out (.ofText output) summary s.tree) ∧
      ∀ c' : Context, c'.now = c.now →
        ∃ s', run c' s.tree input output "*.policy.dsl" = (s', .ok summary) ∧
          ∀ place, s'.tree.at? place = s.tree.at? place := by
  refine ⟨⟨?_, ?_⟩, ?_⟩
  · rintro ⟨s, summary, h⟩
    obtain ⟨start, dir, out, us, final, hcourse, _⟩ := (run_eq_ok_iff ht).mp h
    have hstage := hcourse.stage
    have hunhindered := (exists_turns_iff hstage.source hstage.sourceDirectory hstage.sound).mp
      ⟨us, final, hcourse.policyTurns, hcourse.turns⟩
    exact ⟨start, dir, out, hstage.toPrepared, hunhindered⟩
  · rintro ⟨start, dir, out, hprepared, hunhindered⟩
    have hstage := hprepared.stage ht (Path.clean_ofText input) (Path.clean_ofText output)
    obtain ⟨us, final, hpolicies, hturns⟩ :=
      (exists_turns_iff hstage.source hstage.sourceDirectory hstage.sound).mpr hunhindered
    have hfiles := (files_eq_ok_iff hstage.source hstage.sourceDirectory hstage.sound).mpr hpolicies
    have hcourse := hstage.course (Path.clean_ofText input) hfiles hturns
    exact ⟨_, _, (run_eq_ok_iff ht).mpr ⟨start, dir, out, us, final, hcourse, rfl, rfl⟩⟩
  · intro s summary h
    obtain ⟨start, dir, out, us, final, hcourse, rfl, rfl⟩ := (run_eq_ok_iff ht).mp h
    refine ⟨⟨start, dir, out, hcourse.stage.toPrepared, hcourse.completed⟩, ?_⟩
    intro c' hnow
    obtain ⟨final', hagain, hsame⟩ := hcourse.again
    rw [← hnow] at hagain
    exact ⟨_, (run_eq_ok_iff hcourse.sound).mpr
      ⟨final, dir, out, us, final', hagain, rfl, rfl⟩, hsame⟩

/-! ## A directory with two policy texts -/

def feesText : String :=
  Text.joinLines ["POLICY \"Fees\"", "RULE fees", "WHEN CLAUSE TYPE fees", "REQUIRE /capped/i",
    "SEVERITY high", "END"]

def feesPolicy : Policy :=
  { name := "Fees"
    compiledAt := Time.universalText firstRun.now
    rules := [{ id := "fees", clauseType := "FEES", required := some ⟨"capped", "i"⟩,
                forbidden := none, severity := .high, remediation := Rule.defaultRemediation }] }

private theorem compile_feesText :
    Language.compile feesText (Time.universalText firstRun.now) = .ok feesPolicy := rfl

private theorem compile_feesBytes :
    Language.compile (fileText feesText.toUTF8.toList) (Time.universalText firstRun.now) =
      .ok feesPolicy := by
  have hbytes := Text.repairUtf8_of_readUtf8 (Text.readUtf8_toUTF8 feesText)
  have hreturns : Text.PairedReturns (Text.repairUtf8 feesText.toUTF8.toList).toList := by
    rw [hbytes]
    exact .of_notMem (by decide)
  rw [compile_fileText _ hreturns, hbytes, compile_feesText]

/-- A directory with a policy text that compiles, one that does not, and a file that is none. -/
def portfolio : Tree where
  current := []
  nodes := [(["in"], .directory), (["in", "fees.policy.dsl"], .file feesText.toUTF8.toList),
    (["in", "draft.policy.dsl"], .file []), (["in", "notes.txt"], .file [])]

def preparedPortfolio : Tree := portfolio.put ["out"] .directory

private theorem sound_portfolio : portfolio.Sound := by decide

private theorem prepared_portfolio :
    Prepared portfolio (.ofText "in") (.ofText "out") preparedPortfolio ["in"] ["out"] :=
  ⟨rfl, rfl, rfl⟩

private theorem hasPolicy_portfolio_iff {name : String} {bytes : List UInt8} :
    HasPolicy portfolio ["in"] name bytes ↔ name = "draft.policy.dsl" ∧ bytes = [] ∨
      name = "fees.policy.dsl" ∧ bytes = feesText.toUTF8.toList := by
  constructor
  · rintro ⟨hname, hfile⟩
    have hnode := Tree.mem_nodes_of_at? (by simp) hfile
    simp [portfolio] at hnode
    rcases hnode with ⟨rfl, rfl⟩ | ⟨rfl, rfl⟩ | ⟨rfl, rfl⟩
    · exact .inr ⟨rfl, rfl⟩
    · exact .inl ⟨rfl, rfl⟩
    · exact absurd hname (by decide)
  · rintro (⟨rfl, rfl⟩ | ⟨rfl, rfl⟩)
    · exact ⟨by decide, rfl⟩
    · exact ⟨by decide, rfl⟩

private theorem grows_portfolio : portfolio.Grows preparedPortfolio :=
  (prepared_portfolio.stage sound_portfolio (Path.clean_ofText _) (Path.clean_ofText _)).grows

private theorem unhindered_portfolio :
    Unhindered (Time.universalText firstRun.now) preparedPortfolio ["in"] ["out"] := by
  constructor
  · intro name bytes h hdir
    rw [hasPolicy_iff_of_grows grows_portfolio, hasPolicy_portfolio_iff] at h
    rcases h with ⟨rfl, rfl⟩ | ⟨rfl, rfl⟩ <;> cases hdir
  · intro name bytes h fault hfault
    rw [hasPolicy_iff_of_grows grows_portfolio, hasPolicy_portfolio_iff] at h
    rcases h with ⟨rfl, rfl⟩ | ⟨rfl, rfl⟩
    · cases (compile_empty _).symm.trans hfault
    · cases compile_feesBytes.symm.trans hfault

private theorem rejected_portfolio :
    {name | ∃ bytes failure, HasPolicy portfolio ["in"] name bytes ∧
    Language.compile (fileText bytes) (Time.universalText firstRun.now) = .error failure} =
      {"draft.policy.dsl"} := by
  ext name
  constructor
  · rintro ⟨bytes, failure, hpolicy, hfailure⟩
    rcases hasPolicy_portfolio_iff.mp hpolicy with ⟨rfl, rfl⟩ | ⟨rfl, rfl⟩
    · rfl
    · cases compile_feesBytes.symm.trans hfailure
  · rintro rfl
    exact ⟨_, _, hasPolicy_portfolio_iff.mpr (.inl ⟨rfl, rfl⟩), compile_empty _⟩

/-- The run over the policy texts of a directory with two of them, one of which does not compile,
comes to a summary of both, even to the same one again. -/
theorem run_portfolio : portfolio.Sound ∧ ∃ s summary,
    run firstRun portfolio "in" "out" "*.policy.dsl" = (s, .ok summary) ∧
      summary.items.map (·.sourceFile) = ["draft.policy.dsl", "fees.policy.dsl"] ∧
      summary.failed = 1 ∧
      (∃ start dir out, Prepared portfolio (.ofText "in") (.ofText "out") start dir out ∧
        Completed (Time.universalText firstRun.now) portfolio dir out (.ofText "out") summary
          s.tree) ∧
      ∀ c' : Context, c'.now = firstRun.now → ∃ s',
        run c' s.tree "in" "out" "*.policy.dsl" = (s', .ok summary) ∧
          ∀ place, s'.tree.at? place = s.tree.at? place := by
  obtain ⟨hruns, hresult⟩ := run_policies sound_portfolio firstRun "in" "out"
  obtain ⟨s, summary, h⟩ := hruns.mpr ⟨_, _, _, prepared_portfolio, unhindered_portfolio⟩
  obtain ⟨⟨start, dir, out, hprepared, hcompleted⟩, hagain⟩ := hresult s summary h
  obtain rfl : start = preparedPortfolio :=
    Except.ok.inj (hprepared.made.symm.trans prepared_portfolio.made)
  obtain rfl : dir = ["in"] :=
    Except.ok.inj (hprepared.source.symm.trans prepared_portfolio.source)
  have hsources : summary.items.map (·.sourceFile) = ["draft.policy.dsl", "fees.policy.dsl"] := by
    refine hcompleted.sorted.eq_of_mem_iff (by decide) fun name => ?_
    simp only [hcompleted.complete, hasPolicy_portfolio_iff, exists_or, exists_and_left, exists_eq,
      and_true, List.mem_pair]
  have hfailed : summary.failed = 1 := by
    rw [hcompleted.failed, rejected_portfolio, Set.ncard_singleton]
  exact ⟨sound_portfolio, s, summary, h, hsources, hfailed, ⟨_, _, _, hprepared, hcompleted⟩,
    hagain⟩

end ClauseAudit.Batch
