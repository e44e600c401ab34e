import ClauseAudit.Proofs.Files.Resolve
import ClauseAudit.Proofs.Outcome
import ClauseAudit.Settings.Load

/-!
# Directories of settings

Settings from a file at an absolute path do not depend on the directory that a run starts in. Their
directories are absolute: those that were given so are only tidied, and the others are found by
following their components from the directory of the file, or from the one above it.
-/

namespace ClauseAudit

open Files (Place Path Tree Leads)

namespace Files

/-! ## Reading from elsewhere -/

private theorem Tree.follow_current (t : Tree) (cwd place : Place) (parts : List String) :
    ({ t with current := cwd } : Tree).follow place parts = t.follow place parts := by
  induction parts generalizing place with
  | nil => rfl
  | cons part parts ih =>
    have hat : ({ t with current := cwd } : Tree).at? place = t.at? place := rfl
    rw [Tree.follow, Tree.follow, hat]
    cases t.at? place with
    | none => rfl
    | some node =>
      cases node with
      | file bytes => rfl
      | directory => exact ih _

/-- What is read at an absolute path does not depend on the directory that a run starts in. -/
theorem Tree.read_current (t : Tree) (cwd : Place) {p : Path} (hp : p.isAbsolute = true) :
    ({ t with current := cwd } : Tree).read p = t.read p := by
  have hplace : ({ t with current := cwd } : Tree).place p = t.place p := by
    rw [Tree.place, Tree.place, hp]
    exact t.follow_current cwd [] p.parts
  rw [Tree.read, Tree.read, hplace]
  rfl

namespace Path

theorem isAbsolute_resolve (directory p : Path) : (resolve directory p).isAbsolute =
    true := by
  rw [isAbsolute, resolve]
  rfl

theorem resolve_of_isAbsolute {p : Path} (hp : p.isAbsolute = true) (directory : Path) :
    resolve directory p = ⟨"/", normalParts p.parts⟩ := by
  rw [resolve, join, hp]
  rfl

theorem root_of_isAbsolute {s : String} (h : (ofText s).isAbsolute = true) :
    (ofText s).root = "/" ∨ (ofText s).root = "//" := by
  rw [isAbsolute] at h
  change rootOf s.toList = "/" ∨ rootOf s.toList = "//"
  change (!(rootOf s.toList).isEmpty) = true at h
  unfold rootOf at h ⊢
  split
  · exact .inl rfl
  · exact .inr rfl
  · exact .inl rfl
  · simp at h

end Path

end Files

namespace Settings

/-! ## One directory -/

/-- What is made of a directory that is seen from a base directory. -/
structure Placed (base : Place) (given placed : String) : Prop where
  isAbsolute : (Path.ofText placed).isAbsolute = true
  kept : (Path.ofText given).isAbsolute = true → placed = (Path.ofText given).text
  joined : (Path.ofText given).isAbsolute = false →
    ∃ place, Leads base (Path.splitSlashes given.toList) place ∧
      placed = (Files.Path.mk "/" place).text

private theorem exists_absolute_eq {base : Path} (hbase : base.Clean) (given : String) :
    ∃ p : Path, p.isAbsolute = true ∧ Path.ofText p.text = p ∧ absolute base given = p.text := by
  have hclean := Path.clean_ofText given
  by_cases habs : (Path.ofText given).isAbsolute = true
  · refine ⟨Path.ofText given, habs, ?_, ?_⟩
    · exact Path.ofText_text hclean.isPart (Path.root_of_isAbsolute habs)
    · simp only [absolute, habs, if_true]
  · have hjoin : (base.join (Path.ofText given)).Clean := by
      rw [Path.join, if_neg habs]
      exact List.forall_mem_append.mpr ⟨hbase, hclean⟩
    refine ⟨Path.resolve base (Path.ofText given), Path.isAbsolute_resolve _ _, ?_, ?_⟩
    · apply Path.ofText_text _ (.inl rfl)
      exact fun part hpart => Path.isPart_of_entryName (hjoin.normalParts part hpart)
    · simp only [absolute, if_neg habs]

private theorem placed_absolute {base : Path} (hbase : base.Clean) (hup : ".." ∉ base.parts)
    (given : String) : Placed base.parts given (absolute base given) where
  isAbsolute := by
    obtain ⟨p, habs, hread, heq⟩ := exists_absolute_eq hbase given
    rw [heq, hread, habs]
  kept := by
    intro habs
    simp only [absolute, habs, if_true]
  joined := by
    intro habs
    refine ⟨Path.normalParts (base.parts ++ (Path.ofText given).parts), ?_, ?_⟩
    · have hreverse : base.parts = base.parts.reverse.reverse := base.parts.reverse_reverse.symm
      rw [hreverse, Path.leads_iff, ← hreverse, Path.normalParts_eq, List.foldl_append,
        Path.foldl_climb_names hup, List.append_nil]
      rfl
    · simp only [absolute, habs, Bool.false_eq_true, if_false, Path.resolve, Path.join]

private theorem absolute_absolute {base : Path} (hbase : base.Clean) (given : String)
    (base' : Path) : absolute base' (absolute base given) = absolute base given := by
  obtain ⟨p, habs, hread, heq⟩ := exists_absolute_eq hbase given
  rw [heq, absolute, hread]
  simp only [habs, if_true]

/-! ## Settings from a file -/

variable {t : Tree} {env path : Option String} {s : Settings}

def absoluteFile (env path : Option String) : Path :=
  Path.resolve ⟨"/", []⟩ (Path.ofText (chosenPath env path))

def Gives (t : Tree) (file : Path) (given : BatchSettings) : Prop :=
  ∃ bytes fields, t.read file = .ok bytes ∧ readFields file bytes = .ok fields ∧
    readSection .batch fields BatchSettings.ofFields = .ok given

private theorem load_eq_ofFile (habs : (Path.ofText (chosenPath env path)).isAbsolute = true) :
    load t env path = if hasNull (chosenPath env path) then .error .nullCharacter
      else ofFile t (absoluteFile env path) := by
  have hnamed : (path.isNone && env.isNone) = false := by
    cases path with
    | some path => rfl
    | none =>
      cases env with
      | some env => rfl
      | none =>
        have hdefault : (Path.ofText defaultPath).isAbsolute = false := by decide
        exact absurd habs (by simp [chosenPath, hdefault])
  have hfile (directory : Path) :
      Path.resolve directory (Path.ofText (chosenPath env path)) = absoluteFile env path := by
    rw [absoluteFile, Path.resolve_of_isAbsolute habs, Path.resolve_of_isAbsolute habs]
  simp only [load, hfile, hnamed, Bool.false_and, Bool.false_eq_true, if_false]

private theorem ofFile_current (t : Tree) (cwd : Place) {file : Path}
    (hfile : file.isAbsolute = true) : ofFile { t with current := cwd } file = ofFile t file := by
  rw [ofFile, ofFile, t.read_current cwd hfile]

private theorem exists_of_ofFile {file : Path} (h : ofFile t file = .ok s) : ∃ given : Settings,
    Gives t file given.batch ∧ s = placeDirectories (baseDirectory file) given := by
  obtain ⟨bytes, hbytes, h⟩ := bind_eq_ok_iff.mp h
  obtain ⟨fields, hfields, h⟩ := bind_eq_ok_iff.mp h
  obtain ⟨environment, _, h⟩ := bind_eq_ok_iff.mp h
  obtain ⟨logging, _, h⟩ := bind_eq_ok_iff.mp h
  obtain ⟨batch, hbatch, h⟩ := bind_eq_ok_iff.mp h
  obtain ⟨api, _, h⟩ := bind_eq_ok_iff.mp h
  have hplaced := pure_eq_ok_iff.mp (refused_eq_ok_iff.mp h).2
  refine ⟨{ env := environment, logging, batch, api }, ?_, hplaced.symm⟩
  exact ⟨bytes, fields, mapError_eq_ok_iff.mp hbytes, hfields, hbatch⟩

private theorem entryName_of_mem_base {part : String}
    (hpart : part ∈ (baseDirectory (absoluteFile env path)).parts) : Files.EntryName part := by
  have hclean := Path.clean_ofText (chosenPath env path)
  have hjoin : ((Files.Path.mk "/" []).join (Path.ofText (chosenPath env path))).Clean := by
    unfold Path.join
    split
    · exact hclean
    · exact hclean
  have hfile : part ∈ (absoluteFile env path).parts := by
    unfold baseDirectory at hpart
    split at hpart
    · exact List.dropLast_subset _ (List.dropLast_subset _ hpart)
    · exact List.dropLast_subset _ hpart
  exact hjoin.normalParts part hfile

/-- Settings from a file at an absolute path are the same from every directory that a run may start
in. Both directories of the batch are absolute and placed by the file's own directory, or by the one
above it, and placing them once more changes nothing. -/
theorem load_places_directories (habs : (Path.ofText (chosenPath env path)).isAbsolute = true)
    (h : load t env path = .ok s) :
    (∀ cwd, load { t with current := cwd } env path = .ok s) ∧
      (∃ given, Gives t (absoluteFile env path) given ∧
        Placed (baseDirectory (absoluteFile env path)).parts given.inputDir s.batch.inputDir ∧
        Placed (baseDirectory (absoluteFile env path)).parts given.outputDir s.batch.outputDir) ∧
      ∀ base, placeDirectories base s = s := by
  have hbase : (baseDirectory (absoluteFile env path)).Clean :=
    fun part hpart _ => entryName_of_mem_base hpart
  have hup : ".." ∉ (baseDirectory (absoluteFile env path)).parts :=
    fun hpart => (entryName_of_mem_base hpart).ne_up rfl
  have habsolute : (absoluteFile env path).isAbsolute = true := Path.isAbsolute_resolve _ _
  have hsame (cwd : Place) : load { t with current := cwd } env path = .ok s := by
    rw [load_eq_ofFile habs, ofFile_current t cwd habsolute,
      ← load_eq_ofFile habs, h]
  rw [load_eq_ofFile habs] at h
  obtain ⟨given, hgives, rfl⟩ : ∃ given : Settings, Gives t (absoluteFile env path) given.batch ∧
      s = placeDirectories (baseDirectory (absoluteFile env path)) given := by
    split at h
    · cases h
    · exact exists_of_ofFile h
  refine ⟨hsame, ⟨given.batch, hgives, placed_absolute hbase hup _, placed_absolute hbase hup _⟩,
    ?_⟩
  intro base
  simp only [placeDirectories, absolute_absolute hbase]

def officeText : String :=
  "[batch]\ninput_dir = '../in//./texts'\noutput_dir = '//out/../done'\n"

/-- A file of settings in a directory for configuration, seen from a directory elsewhere. -/
def officeTree : Tree where
  current := ["home"]
  nodes := [(["home"], .directory), (["srv"], .directory), (["srv", "Config"], .directory),
    (["srv", "Config", "audit.toml"], .file officeText.toUTF8.toList)]

def officePath : Option String := some "/srv/Config/./audit.toml"

def officeSettings : Settings :=
  { batch := { inputDir := "/in/texts", outputDir := "//out/../done" } }

theorem officeSettings_placed :
    (Path.ofText (chosenPath none officePath)).isAbsolute = true ∧
      load officeTree none officePath = .ok officeSettings ∧
      (∀ cwd, load { officeTree with current := cwd } none officePath = .ok officeSettings) ∧
      (∃ given, Gives officeTree (absoluteFile none officePath) given ∧
        Placed (baseDirectory (absoluteFile none officePath)).parts given.inputDir "/in/texts" ∧
        Placed (baseDirectory (absoluteFile none officePath)).parts given.outputDir
          "//out/../done") ∧
      ∀ base, placeDirectories base officeSettings = officeSettings := by
  have habs : (Path.ofText (chosenPath none officePath)).isAbsolute = true := by decide
  have hsome : (load officeTree none officePath).toOption = some officeSettings := by
    decide +kernel
  have hload := toOption_eq_some_iff.mp hsome
  exact ⟨habs, hload, load_places_directories habs hload⟩

end Settings

end ClauseAudit
