import ClauseAudit.Files.Tree
import ClauseAudit.Proofs.Files.Path
import ClauseAudit.Proofs.Outcome
import Mathlib.Data.List.Nodup

/-!
# Trees of files

In a sound tree every place that is taken is an entry of a directory, so that paths lead where they
led before as long as no directory is lost. Making directories and writing files keep a tree sound
and lose no directory; making directories changes nothing else that is there.
-/

namespace ClauseAudit.Files

namespace Tree

variable {t t' : Tree} {p : Path} {place q dir : Place} {node : Node} {name : String}

/-- All places are apart, and each is an entry of a directory. Relative paths start from a
directory. -/
structure Sound (t : Tree) : Prop where
  current : t.at? t.current = some .directory
  apart : (t.nodes.map (·.1)).Nodup
  entry : ∀ n ∈ t.nodes, ∃ dir name, n.1 = dir ++ [name] ∧ EntryName name ∧
    t.at? dir = some .directory

private theorem sound_iff : t.Sound ↔ t.at? t.current = some .directory ∧
    (t.nodes.map (·.1)).Nodup ∧ ∀ n ∈ t.nodes, ∃ name ∈ n.1.getLast?, EntryName name ∧
      t.at? n.1.dropLast = some .directory := by
  constructor
  · intro h
    refine ⟨h.current, h.apart, fun n hn => ?_⟩
    obtain ⟨dir, name, hplace, hname, hdir⟩ := h.entry n hn
    rw [hplace, List.getLast?_concat, List.dropLast_concat]
    exact ⟨name, rfl, hname, hdir⟩
  · rintro ⟨hcurrent, hapart, hentry⟩
    refine ⟨hcurrent, hapart, fun n hn => ?_⟩
    obtain ⟨name, hlast, hname, hdir⟩ := hentry n hn
    exact ⟨_, name, (List.dropLast_append_getLast? name hlast).symm, hname, hdir⟩

instance (t : Tree) : Decidable t.Sound := decidable_of_iff' _ sound_iff

/-! ## Places -/

theorem at?_of_ne_nil (h : place ≠ []) :
    t.at? place = (t.nodes.find? (·.1 == place)).map (·.2) := by
  rw [at?, if_neg (by simpa using h)]

theorem mem_nodes_of_at? (hne : place ≠ []) (h : t.at? place = some node) :
    (place, node) ∈ t.nodes := by
  rw [at?_of_ne_nil hne, Option.map_eq_some_iff] at h
  obtain ⟨n, hn, rfl⟩ := h
  have hplace : n.1 = place := by simpa using List.find?_some hn
  rw [← hplace]
  exact List.mem_of_find?_eq_some hn

theorem Sound.ne_nil (ht : t.Sound) (h : (place, node) ∈ t.nodes) : place ≠ [] := by
  obtain ⟨dir, name, hplace, _⟩ := ht.entry _ h
  rw [show place = dir ++ [name] from hplace]
  simp

theorem Sound.at?_of_mem (ht : t.Sound) (h : (place, node) ∈ t.nodes) :
    t.at? place = some node := by
  rw [at?_of_ne_nil (ht.ne_nil h), Option.map_eq_some_iff]
  cases hfind : t.nodes.find? (·.1 == place) with
  | none => exact absurd (List.find?_eq_none.mp hfind _ h) (by simp)
  | some n =>
    have hplace : n.1 = place := by simpa using List.find?_some hfind
    exact ⟨n, rfl, congrArg Prod.snd
      (List.inj_on_of_nodup_map ht.apart (List.mem_of_find?_eq_some hfind) h hplace)⟩

private theorem Sound.exists_entry (ht : t.Sound) (hne : place ≠ []) (h : t.at? place = some node) :
    ∃ dir name, place = dir ++ [name] ∧ EntryName name ∧ t.at? dir = some .directory :=
  ht.entry _ (mem_nodes_of_at? hne h)

private theorem Sound.at?_dropLast (ht : t.Sound) (h : t.at? place = some node) :
    t.at? place.dropLast = some .directory := by
  by_cases hne : place = []
  · rw [hne]
    rfl
  · obtain ⟨dir, name, rfl, _, hdir⟩ := ht.exists_entry hne h
    rwa [List.dropLast_concat]

theorem at?_put (hne : place ≠ []) :
    (t.put place node).at? q = if q = place then some node else t.at? q := by
  by_cases hq : q = []
  · rw [hq, if_neg hne.symm]
    rfl
  rw [at?_of_ne_nil hq, at?_of_ne_nil hq, put, List.find?_append, List.find?_filter]
  by_cases hplace : q = place
  · subst hplace
    have hnone : t.nodes.find? (fun n => (n.1 != q) = true ∧ (n.1 == q) = true) = none := by
      rw [List.find?_eq_none]
      intro n _ hn
      simp at hn
    rw [hnone, if_pos rfl]
    simp
  · have hsame : (fun n : Place × Node => decide ((n.1 != place) = true ∧ (n.1 == q) = true)) =
        fun n => n.1 == q := by
      funext n
      by_cases hn : n.1 = q
      · simp [hn, hplace]
      · simp [hn]
    rw [hsame, if_neg hplace]
    simp [Ne.symm hplace]

/-- An entry of a directory may be put anew, unless it was a directory and would be lost. -/
theorem Sound.put (ht : t.Sound) (hname : EntryName name) (hdir : t.at? dir = some .directory)
    (hkeep : t.at? (dir ++ [name]) = some .directory → node = .directory) :
    (t.put (dir ++ [name]) node).Sound := by
  have hne : dir ++ [name] ≠ [] := by simp
  have hdirectories : ∀ q, t.at? q = some .directory →
      (t.put (dir ++ [name]) node).at? q = some .directory := by
    intro q hq
    rw [at?_put hne]
    split
    · next heq => rw [hkeep (heq ▸ hq)]
    · exact hq
  constructor
  · exact hdirectories _ ht.current
  · rw [Tree.put, List.map_append, List.nodup_append]
    refine ⟨(List.filter_sublist.map _).nodup ht.apart, by simp, ?_⟩
    intro q hq r hr heq
    obtain ⟨n, hn, rfl⟩ := List.mem_map.mp hq
    rw [List.map_singleton, List.mem_singleton] at hr
    have hfilter := (List.mem_filter.mp hn).2
    simp [heq, hr] at hfilter
  · intro n hn
    rw [Tree.put, List.mem_append, List.mem_singleton] at hn
    rcases hn with hn | rfl
    · obtain ⟨dir', name', hplace, hname', hdir'⟩ := ht.entry n (List.mem_filter.mp hn).1
      exact ⟨dir', name', hplace, hname', hdirectories _ hdir'⟩
    · exact ⟨dir, name, rfl, hname, hdirectories _ hdir⟩

/-! ## Paths -/

theorem follow_append (place : Place) (parts parts' : List String) :
    t.follow place (parts ++ parts') = t.follow place parts >>= (t.follow · parts') := by
  induction parts generalizing place with
  | nil => rfl
  | cons part parts ih =>
    rw [List.cons_append, follow, follow]
    split
    · rfl
    · rfl
    · exact ih _

private theorem follow_singleton (hdir : t.at? dir = some .directory) (hname : name ≠ "..") :
    t.follow dir [name] = .ok (dir ++ [name]) := by
  rw [follow, hdir]
  simp [follow, hname]

theorem place_child (hplace : t.place p = .ok dir) (hdir : t.at? dir = some .directory)
    (hname : name ≠ "..") : t.place (p.child name) = .ok (dir ++ [name]) := by
  have happend := follow_append (t := t) (if p.isAbsolute then [] else t.current) p.parts [name]
  have hparts : t.follow (if p.isAbsolute then [] else t.current) p.parts = .ok dir := hplace
  rw [hparts] at happend
  exact happend.trans (follow_singleton hdir hname)

theorem node?_of_place (h : t.place p = .ok place) : t.node? p = t.at? place := by
  rw [node?, h]

theorem isDirectory_iff : t.isDirectory p = true ↔ t.node? p = some .directory := by
  unfold isDirectory
  split
  · next h => simp [h]
  · next h => simpa using h

theorem isFile_iff : t.isFile p = true ↔ ∃ bytes, t.node? p = some (.file bytes) := by
  unfold isFile
  split
  · next bytes h => simp [h]
  · next h =>
    simp only [Bool.false_eq_true, false_iff, not_exists]
    exact h

theorem node?_eq_some_iff : t.node? p = some node ↔
    ∃ place, t.place p = .ok place ∧ t.at? place = some node := by
  unfold node?
  cases t.place p with
  | error cause => simp
  | ok place => simp

/-- What is at the end of a path is there, or could be an entry of a directory that is there. -/
theorem Sound.follow_end (ht : t.Sound) {parts : List String}
    (hparts : ∀ part ∈ parts, part ≠ ".." → EntryName part) (hplace : t.at? place = some .directory)
    (h : t.follow place parts = .ok q) : t.at? q = some .directory ∨
      ∃ dir name, q = dir ++ [name] ∧ EntryName name ∧ t.at? dir = some .directory := by
  induction parts generalizing place with
  | nil =>
    cases h
    exact .inl hplace
  | cons part parts ih =>
    rw [follow, hplace] at h
    obtain ⟨hpart, hrest⟩ := List.forall_mem_cons.mp hparts
    by_cases hup : part = ".."
    · simp only [hup, beq_self_eq_true, if_true] at h
      exact ih hrest (ht.at?_dropLast hplace) h
    · simp only [beq_iff_eq, if_neg hup] at h
      -- The next step shows that the entry is a directory, if there is a next step.
      cases parts with
      | nil =>
        cases h
        exact .inr ⟨place, part, rfl, hpart hup, hplace⟩
      | cons next parts =>
        have hentry : t.at? (place ++ [part]) = some .directory := by
          rw [follow] at h
          split at h
          · cases h
          · cases h
          · next hdir => exact hdir
        exact ih hrest hentry h

/-! ## Changes that lose no directory -/

/-- All directories are still there. -/
structure Keeps (t t' : Tree) : Prop where
  current : t'.current = t.current
  directory : ∀ place, t.at? place = some .directory → t'.at? place = some .directory

theorem Keeps.refl (t : Tree) : t.Keeps t := ⟨rfl, fun _ h => h⟩

theorem Keeps.trans {t'' : Tree} (h : t.Keeps t') (h' : t'.Keeps t'') : t.Keeps t'' :=
  ⟨h'.current.trans h.current, fun place hplace => h'.directory place (h.directory place hplace)⟩

private theorem Keeps.follow {parts : List String} (hkeeps : t.Keeps t')
    (h : t.follow place parts = .ok q) : t'.follow place parts = .ok q := by
  induction parts generalizing place with
  | nil => exact h
  | cons part parts ih =>
    rw [Tree.follow] at h ⊢
    split at h
    · cases h
    · cases h
    · next hdir =>
      rw [hkeeps.directory _ hdir]
      exact ih h

theorem Keeps.place_eq (hkeeps : t.Keeps t') (h : t.place p = .ok q) : t'.place p = .ok q := by
  rw [Tree.place, hkeeps.current]
  exact hkeeps.follow h

theorem Keeps.node?_directory (hkeeps : t.Keeps t') (h : t.node? p = some .directory) :
    t'.node? p = some .directory := by
  obtain ⟨place, hplace, hdir⟩ := node?_eq_some_iff.mp h
  exact node?_eq_some_iff.mpr ⟨place, hkeeps.place_eq hplace, hkeeps.directory place hdir⟩

theorem keeps_put (hne : place ≠ []) (hkeep : t.at? place ≠ some .directory) :
    t.Keeps (t.put place node) := by
  refine ⟨rfl, ?_⟩
  intro q hq
  rw [at?_put hne, if_neg]
  · exact hq
  · rintro rfl
    exact hkeep hq

/-- Some directories more, and nothing else is changed. -/
structure Grows (t t' : Tree) : Prop where
  current : t'.current = t.current
  kept : ∀ place node, t.at? place = some node → t'.at? place = some node
  added : ∀ place, t.at? place = none → t'.at? place = none ∨ t'.at? place = some .directory

theorem Grows.refl (t : Tree) : t.Grows t := ⟨rfl, fun _ _ h => h, fun _ h => .inl h⟩

theorem Grows.trans {t'' : Tree} (h : t.Grows t') (h' : t'.Grows t'') : t.Grows t'' where
  current := h'.current.trans h.current
  kept place node hplace := h'.kept place node (h.kept place node hplace)
  added place hplace := by
    rcases h.added place hplace with hnone | hdir
    · exact h'.added place hnone
    · exact .inr (h'.kept place _ hdir)

theorem Grows.keeps (h : t.Grows t') : t.Keeps t' := ⟨h.current, fun place => h.kept place _⟩

theorem Grows.file_iff (h : t.Grows t') {bytes : List UInt8} :
    t'.at? place = some (.file bytes) ↔ t.at? place = some (.file bytes) := by
  constructor
  · intro hfile
    cases hplace : t.at? place with
    | none => rcases h.added place hplace with hnone | hdir <;> simp_all
    | some node => rw [← hfile, h.kept place node hplace]
  · exact h.kept place _

private theorem grows_put (h : t.at? place = none) : t.Grows (t.put place .directory) := by
  have hne : place ≠ [] := by
    rintro rfl
    cases h
  refine ⟨rfl, ?_, ?_⟩
  · intro q node hq
    rw [at?_put hne, if_neg]
    · exact hq
    · rintro rfl
      rw [h] at hq
      cases hq
  · intro q hq
    rw [at?_put hne]
    split
    · exact .inr rfl
    · exact .inl hq

/-! ## Making directories -/

structure Makes (t : Tree) (p : Path) (t' : Tree) : Prop where
  grows : t.Grows t'
  sound : t'.Sound
  directory : t'.node? p = some .directory

private theorem Sound.makes_of_makeDirectory (ht : t.Sound) (hp : p.Clean)
    (h : t.makeDirectory p = .ok t') : t.Makes p t' := by
  obtain ⟨q, hq, h⟩ := bind_eq_ok_iff.mp h
  split at h
  · cases h
  · next hnone =>
    have hfree : t.at? q = none := by simpa using hnone
    cases h
    have hstart : t.at? (if p.isAbsolute then [] else t.current) = some .directory := by
      split
      · rfl
      · exact ht.current
    rcases ht.follow_end hp hstart hq with hdir | ⟨dir, name, rfl, hname, hdir⟩
    · rw [hfree] at hdir
      cases hdir
    · have hgrows := grows_put hfree
      refine ⟨hgrows, ht.put hname hdir (fun _ => rfl), ?_⟩
      rw [node?_of_place (hgrows.keeps.place_eq hq), at?_put (by simp), if_pos rfl]

private theorem makes_self (ht : t.Sound) (h : t.node? p = some .directory) : t.Makes p t :=
  ⟨.refl t, ht, h⟩

private theorem Sound.makes_of_ensureDirectory (ht : t.Sound) (hp : p.Clean)
    (h : t.ensureDirectory p = .ok t') : t.Makes p t' := by
  unfold ensureDirectory at h
  split at h
  · next hmake =>
    cases h
    exact ht.makes_of_makeDirectory hp hmake
  · split at h
    · next hdir =>
      cases h
      exact makes_self ht (isDirectory_iff.mp hdir)
    · cases h

private theorem Sound.makes_of_ensureDirectories (ht : t.Sound) (hp : p.Clean) {n : Nat}
    (h : t.ensureDirectories p n = .ok t') : t.Makes p t' := by
  induction n generalizing p t' with
  | zero => exact ht.makes_of_ensureDirectory hp h
  | succ n ih =>
    unfold ensureDirectories at h
    split at h
    · next hmake =>
      cases h
      exact ht.makes_of_makeDirectory hp hmake
    · split at h
      · cases h
      · obtain ⟨above, habove, h⟩ := bind_eq_ok_iff.mp h
        have hparent := ih hp.parent habove
        have hmakes := hparent.sound.makes_of_ensureDirectory hp h
        exact ⟨hparent.grows.trans hmakes.grows, hmakes.sound, hmakes.directory⟩
    · split at h
      · next hdir =>
        cases h
        exact makes_self ht (isDirectory_iff.mp hdir)
      · cases h

/-- A directory that can be made is there afterwards, and all that was there still is. -/
theorem Sound.makes_of_makeAll (ht : t.Sound) (hp : p.Clean) (h : t.makeAll p = .ok t') :
    t.Makes p t' :=
  ht.makes_of_ensureDirectories hp h

theorem makeAll_of_directory (h : t.node? p = some .directory) : t.makeAll p = .ok t := by
  have hdir := isDirectory_iff.mpr h
  obtain ⟨place, hplace, hnode⟩ := node?_eq_some_iff.mp h
  have hmake : t.makeDirectory p = .error .taken := by
    rw [makeDirectory, hplace]
    simp [bind, Except.bind, hnode]
  unfold makeAll
  cases p.parts.length with
  | zero => rw [ensureDirectories, ensureDirectory, hmake, hdir]; rfl
  | succ n => rw [ensureDirectories, hmake, hdir]; rfl

/-! ## Reading and writing -/

theorem read_eq_ok_iff {bytes : List UInt8} :
    t.read p = .ok bytes ↔ t.node? p = some (.file bytes) := by
  unfold read node?
  cases t.place p with
  | error cause => simp
  | ok place =>
    cases h : t.at? place with
    | none => simp [h]
    | some node => cases node <;> simp [h]

theorem read_put (hplace : t.place p = .ok q) (hq : q ≠ place) (hne : place ≠ [])
    (hkeep : t.at? place ≠ some .directory) : (t.put place node).read p = t.read p := by
  rw [read, read, (keeps_put hne hkeep).place_eq hplace, hplace]
  simp only [at?_put hne, if_neg hq]

theorem read_of_write {bytes : List UInt8} (h : t.write p bytes = .ok t') :
    t'.read p = .ok bytes := by
  unfold write at h
  split at h
  · cases h
  · next place hplace =>
    split at h
    · cases h
    · next hkeep =>
      have hne : place ≠ [] := by
        rintro rfl
        exact hkeep rfl
      cases h
      have hkeeps : t.Keeps (t.put place (.file bytes)) := keeps_put hne hkeep
      have hsame := hkeeps.place_eq hplace
      rw [read_eq_ok_iff, node?_of_place hsame, at?_put hne, if_pos rfl]

section Store

variable (hplace : t.place p = .ok dir) (hdir : t.at? dir = some .directory) (hname : name ≠ "..")
  (bytes : List UInt8)

include hplace hdir hname

theorem store_child (h : t.at? (dir ++ [name]) ≠ some .directory) :
    t.store (p.child name) bytes = (t.put (dir ++ [name]) (.file bytes), none) := by
  have hmake : t.makeAll p = .ok t :=
    makeAll_of_directory ((node?_of_place hplace).trans hdir)
  rw [store, Path.parent_child, hmake]
  simp only [write, place_child hplace hdir hname]

theorem store_child_directory (h : t.at? (dir ++ [name]) = some .directory) :
    t.store (p.child name) bytes = (t, some ⟨.isDirectory, p.child name⟩) := by
  have hmake : t.makeAll p = .ok t :=
    makeAll_of_directory ((node?_of_place hplace).trans hdir)
  rw [store, Path.parent_child, hmake]
  simp only [write, place_child hplace hdir hname, h]

end Store

end Tree

end ClauseAudit.Files
