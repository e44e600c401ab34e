import ClauseAudit.Batch.Run
import ClauseAudit.Proofs.Batch.OutputName
import ClauseAudit.Proofs.Files.Tree

/-!
# Turns of a run

A run is a sequence of turns. In its turn a file is read as it stands then, and its envelope is put
into the output directory. The envelope that was put somewhere last is there in the end, and what
nothing was put over is there as before.
-/

namespace ClauseAudit.Batch

open Files

private theorem dropSuffix_subset (suffix cs : List Char) : dropSuffix suffix cs ⊆ cs := by
  unfold dropSuffix
  split
  · exact List.take_subset _ _
  · exact List.Subset.refl _

theorem entryName_outputName {name : String} (h : '/' ∉ name.toList) :
    EntryName (outputName name) := by
  have hlast : (outputName name).toList.getLast? = some 'n' := by
    simp [outputName, compiledSuffix]
  refine ⟨?_, ?_, ?_, ?_⟩
  · intro hempty
    simp [hempty] at hlast
  · intro hdot
    simp [hdot] at hlast
  · intro hup
    simp [hup] at hlast
  · rw [outputName, String.toList_append, String.toList_ofList, List.mem_append, not_or]
    exact ⟨fun hmem => h (dropSuffix_subset _ _ hmem), by decide⟩

/-- The turn of one file: what was read from it, and the envelope of that. -/
structure Turn where
  path : Path
  bytes : List UInt8
  envelope : Envelope

namespace Turn

def name (u : Turn) : String := u.path.name

def output (u : Turn) (out : Place) : Place := out ++ [outputName u.name]

def write (u : Turn) (out : Place) (t : Tree) : Tree :=
  t.put (u.output out) (.file u.envelope.bytes)

def item (u : Turn) (target : Path) : Item where
  sourceFile := u.name
  outputPath := (target.child (outputName u.name)).text
  diagnostic := u.envelope.outcome.message?

def lines (u : Turn) (c : Context) (target : Path) : List String :=
  match u.envelope.outcome.message? with
  | none => c.log 20 "compiled policy file"
      [("source_file", .str u.name), ("output", .str (target.child (outputName u.name)).text)]
  | some m => c.log 30 "policy compile failed"
      [("source_file", .str u.name), ("error", .str m)]

def after (u : Turn) (c : Context) (target : Path) (out : Place) (s : State) : State where
  tree := u.write out s.tree
  lines := s.lines ++ u.lines c target
  items := s.items ++ [u.item target]

/-- The file can be read and compiled, and its envelope can be put. -/
structure Ready (u : Turn) (stamp : String) (out : Place) (t : Tree) : Prop where
  read : t.read u.path = .ok u.bytes
  compiles : Envelope.ofText u.name (fileText u.bytes) stamp = .ok u.envelope
  free : t.at? (u.output out) ≠ some .directory

theorem output_eq_iff {u v : Turn} (out : Place) :
    u.output out = v.output out ↔ Meet u.name v.name := by
  rw [output, output, List.append_cancel_left_eq, List.cons.injEq, outputName_eq_iff,
    and_iff_left rfl]

theorem outputPath_eq_iff {u v : Turn} (output : Path) :
    (u.item output).outputPath = (v.item output).outputPath ↔ Meet u.name v.name :=
  (Path.text_child_inj output).trans outputName_eq_iff

theorem output_ne_nil {u : Turn} {out : Place} : u.output out ≠ [] := by simp [output]

private theorem at?_write (u : Turn) (out : Place) (t : Tree) (place : Place) :
    (u.write out t).at? place =
      if place = u.output out then some (.file u.envelope.bytes) else t.at? place :=
  Tree.at?_put output_ne_nil

private theorem Ready.keeps {u : Turn} {stamp : String} {out : Place} {t : Tree}
    (h : u.Ready stamp out t) : t.Keeps (u.write out t) :=
  Tree.keeps_put output_ne_nil h.free

end Turn

section Step

variable {c : Context} {target path : Path} {out : Place} {s s' : State}
  (hplace : s.tree.place target = .ok out) (hdir : s.tree.at? out = some .directory)

include hplace hdir

private theorem step_of_ready {u : Turn} (hpath : u.path.Clean)
    (h : u.Ready (Time.universalText c.now) out s.tree) :
    step c target s u.path = (u.after c target out s, none) := by
  have hname := entryName_outputName hpath.noSlash_name
  have hstore := Tree.store_child hplace hdir hname.ne_up u.envelope.bytes h.free
  unfold step
  rw [h.read]
  simp only [show Envelope.ofText u.path.name _ _ = _ from h.compiles, Path.join_ofText _ hname,
    hstore]
  rfl

private theorem step_eq_none_iff (hpath : path.Clean) :
    step c target s path = (s', none) ↔ ∃ u : Turn, u.path = path ∧
      u.Ready (Time.universalText c.now) out s.tree ∧ s' = u.after c target out s := by
  constructor
  · intro h
    have hname := entryName_outputName hpath.noSlash_name
    cases hread : s.tree.read path with
    | error fault => simp [step, hread] at h
    | ok bytes =>
      cases hofText : Envelope.ofText path.name (fileText bytes) (Time.universalText c.now) with
      | error fault => simp [step, hread, hofText] at h
      | ok envelope =>
        -- Once the directory is there, storing fails only where another directory stands.
        by_cases hfree : s.tree.at? (out ++ [outputName path.name]) = some .directory
        · have hstore := Tree.store_child_directory hplace hdir hname.ne_up envelope.bytes hfree
          simp [step, hread, hofText, Path.join_ofText _ hname, hstore] at h
        · let u : Turn := ⟨path, bytes, envelope⟩
          have hready : u.Ready (Time.universalText c.now) out s.tree := ⟨hread, hofText, hfree⟩
          have hstep := step_of_ready hplace hdir (u := u) hpath hready
          exact ⟨u, rfl, hready, congrArg Prod.fst (h.symm.trans hstep)⟩
  · rintro ⟨u, rfl, hready, rfl⟩
    exact step_of_ready hplace hdir hpath hready

end Step

/-- No two files meet. -/
def Apart (us : List Turn) : Prop := us.Pairwise fun u v => ¬Meet u.name v.name

/-- Files have their turns one after the other, from one tree to another. -/
inductive Turns (stamp : String) (out : Place) : Tree → List Turn → Tree → Prop where
  | done (t : Tree) : Turns stamp out t [] t
  | next {t t' : Tree} {u : Turn} {us : List Turn} (ready : u.Ready stamp out t)
      (rest : Turns stamp out (u.write out t) us t') : Turns stamp out t (u :: us) t'

namespace Turns

variable {stamp : String} {out : Place} {t t' t'' : Tree} {u : Turn} {us vs : List Turn}
  {place : Place}

private theorem cons_iff : Turns stamp out t (u :: us) t' ↔
    u.Ready stamp out t ∧ Turns stamp out (u.write out t) us t' := by
  constructor
  · rintro (_ | ⟨hready, hrest⟩)
    exact ⟨hready, hrest⟩
  · exact fun h => .next h.1 h.2

private theorem append_iff : Turns stamp out t (us ++ vs) t'' ↔
    ∃ t', Turns stamp out t us t' ∧ Turns stamp out t' vs t'' := by
  induction us generalizing t with
  | nil =>
    constructor
    · exact fun h => ⟨t, .done t, h⟩
    · rintro ⟨_, _ | _, h⟩
      exact h
  | cons u us ih =>
    rw [List.cons_append, cons_iff, ih]
    constructor
    · rintro ⟨hready, t', hus, hvs⟩
      exact ⟨t', .next hready hus, hvs⟩
    · rintro ⟨t', h, hvs⟩
      obtain ⟨hready, hus⟩ := cons_iff.mp h
      exact ⟨hready, t', hus, hvs⟩

theorem keeps (h : Turns stamp out t us t') : t.Keeps t' := by
  induction h with
  | done t => exact .refl t
  | next ready _ ih => exact ready.keeps.trans ih

theorem sound (h : Turns stamp out t us t') (ht : t.Sound) (hdir : t.at? out = some .directory)
    (hpaths : ∀ u ∈ us, u.path.Clean) : t'.Sound := by
  induction h with
  | done t => exact ht
  | next ready _ ih =>
    obtain ⟨hpath, hrest⟩ := List.forall_mem_cons.mp hpaths
    refine ih ?_ (ready.keeps.directory _ hdir) hrest
    exact ht.put (entryName_outputName hpath.noSlash_name) hdir fun hlost => absurd hlost ready.free

theorem at?_of_apart (h : Turns stamp out t us t') (hplace : ∀ u ∈ us, u.output out ≠ place) :
    t'.at? place = t.at? place := by
  induction h with
  | done t => rfl
  | next _ _ ih =>
    obtain ⟨hne, hrest⟩ := List.forall_mem_cons.mp hplace
    rw [ih hrest, Turn.at?_write, if_neg hne.symm]

/-- The envelope that is put somewhere last is there in the end. -/
theorem at?_last (h : Turns stamp out t (us ++ u :: vs) t') (hlast : ∀ v ∈ vs, ¬Meet v.name u.name) :
    t'.at? (u.output out) = some (.file u.envelope.bytes) := by
  obtain ⟨_, _, h⟩ := append_iff.mp h
  obtain ⟨_, hvs⟩ := cons_iff.mp h
  have hapart : ∀ v ∈ vs, v.output out ≠ u.output out :=
    fun v hv heq => hlast v hv ((Turn.output_eq_iff out).mp heq)
  rw [hvs.at?_of_apart hapart, Turn.at?_write, if_pos rfl]

theorem at?_of_mem (h : Turns stamp out t us t') (hapart : Apart us) :
    ∀ u ∈ us, t'.at? (u.output out) = some (.file u.envelope.bytes) := by
  intro u hu
  obtain ⟨before, after, rfl⟩ := List.append_of_mem hu
  refine h.at?_last fun v hv hmeet => ?_
  exact List.rel_of_pairwise_cons (List.pairwise_append.mp hapart).2.1 hv hmeet.symm

private theorem ready_write_iff {v : Turn} (hv : v.Ready stamp out t) {source : Place}
    (hsource : t.place u.path = .ok source) (hne : v.output out ≠ source) :
    u.Ready stamp out (v.write out t) ↔ u.Ready stamp out t := by
  have hread : (v.write out t).read u.path = t.read u.path :=
    Tree.read_put hsource hne.symm Turn.output_ne_nil hv.free
  have hfree : (v.write out t).at? (u.output out) = some .directory ↔
      t.at? (u.output out) = some .directory := by
    rw [Turn.at?_write]
    split
    · next heq =>
      rw [heq]
      constructor
      · intro hfile
        cases hfile
      · exact fun hdir => absurd hdir hv.free
    · rfl
  exact ⟨fun h => ⟨hread ▸ h.read, h.compiles, fun hdir => h.free (hfree.mpr hdir)⟩,
    fun h => ⟨hread ▸ h.read, h.compiles, fun hdir => h.free (hfree.mp hdir)⟩⟩

/-- When no envelope is put over a file, the files have their turns exactly when all are ready from
the start. -/
theorem exists_iff (hsources : ∀ u ∈ us, ∃ source, t.place u.path = .ok source ∧
      ∀ v ∈ us, v.output out ≠ source) :
    (∃ t', Turns stamp out t us t') ↔ ∀ u ∈ us, u.Ready stamp out t := by
  induction us generalizing t with
  | nil => exact ⟨fun _ => by simp, fun _ => ⟨t, .done t⟩⟩
  | cons v us ih =>
    obtain ⟨_, hrest⟩ := List.forall_mem_cons.mp hsources
    -- What the first turn writes changes neither what the others read nor where they may write.
    have hlater (hv : v.Ready stamp out t) :
        (∃ t', Turns stamp out (v.write out t) us t') ↔ ∀ u ∈ us, u.Ready stamp out t := by
      rw [ih]
      · refine forall₂_congr fun u hu => ?_
        obtain ⟨source, hsource, hne⟩ := hrest u hu
        exact ready_write_iff hv hsource (hne v List.mem_cons_self)
      · intro u hu
        obtain ⟨source, hsource, hne⟩ := hrest u hu
        exact ⟨source, hv.keeps.place_eq hsource, fun w hw => hne w (List.mem_cons_of_mem _ hw)⟩
    rw [List.forall_mem_cons]
    constructor
    · rintro ⟨t', h⟩
      obtain ⟨hv, h⟩ := cons_iff.mp h
      exact ⟨hv, (hlater hv).mp ⟨t', h⟩⟩
    · rintro ⟨hv, hready⟩
      obtain ⟨t', h⟩ := (hlater hv).mpr hready
      exact ⟨t', .next hv h⟩

theorem compiles (h : Turns stamp out t us t') :
    ∀ u ∈ us, Envelope.ofText u.name (fileText u.bytes) stamp = .ok u.envelope := by
  induction h with
  | done t => simp
  | next ready _ ih => exact List.forall_mem_cons.mpr ⟨ready.compiles, ih⟩

end Turns

section Steps

variable {c : Context} {target : Path} {out : Place} {s s' : State} {paths : List Path}

/-- A run over files goes through exactly when they all have their turns. -/
theorem steps_eq_none_iff (hplace : s.tree.place target = .ok out)
    (hdir : s.tree.at? out = some .directory) (hpaths : ∀ path ∈ paths, path.Clean) :
    steps c target s paths = (s', none) ↔ ∃ us final, us.map Turn.path = paths ∧
      Turns (Time.universalText c.now) out s.tree us final ∧
      s' = { tree := final
             lines := s.lines ++ us.flatMap (·.lines c target)
             items := s.items ++ us.map (·.item target) } := by
  induction paths generalizing s with
  | nil =>
    constructor
    · intro h
      cases h
      exact ⟨[], _, rfl, .done _, by simp⟩
    · rintro ⟨us, final, hus, hturns, rfl⟩
      obtain rfl := List.map_eq_nil_iff.mp hus
      cases hturns
      simp [steps]
  | cons path paths ih =>
    obtain ⟨hpath, hrest⟩ := List.forall_mem_cons.mp hpaths
    -- The first turn loses no directory, so the others still find the one for their envelopes.
    have hafter {u : Turn} (hready : u.Ready (Time.universalText c.now) out s.tree) :=
      ih (s := u.after c target out s) (hready.keeps.place_eq hplace)
        (hready.keeps.directory _ hdir) hrest
    constructor
    · intro h
      rw [steps] at h
      split at h
      · next hstep =>
        obtain ⟨u, rfl, hready, rfl⟩ := (step_eq_none_iff hplace hdir hpath).mp hstep
        obtain ⟨us, final, rfl, hturns, rfl⟩ := (hafter hready).mp h
        exact ⟨u :: us, final, rfl, .next hready hturns, by simp [Turn.after]⟩
      · cases h
    · rintro ⟨us, final, hus, hturns, rfl⟩
      obtain ⟨u, us, rfl, rfl, rfl⟩ := List.map_eq_cons_iff.mp hus
      obtain ⟨hready, hturns⟩ := Turns.cons_iff.mp hturns
      rw [steps, step_of_ready hplace hdir hpath hready]
      exact (hafter hready).mpr ⟨us, final, rfl, hturns, by simp [Turn.after]⟩

end Steps

end ClauseAudit.Batch
