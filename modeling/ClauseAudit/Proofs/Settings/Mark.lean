import ClauseAudit.Proofs.Files.Tree
import ClauseAudit.Proofs.Text.Utf8
import ClauseAudit.Proofs.Toml.Surroundings
import ClauseAudit.Settings.Load

/-!
# Byte order marks in front of settings

A byte order mark in front of a settings file changes nothing: the text behind the mark is not read
at first, and is read as what it was once the mark and the white space are taken away.
-/

namespace ClauseAudit

namespace Text

private theorem readUtf8From_eq_ok {position position' fuel fuel' : Nat} {bytes : List UInt8}
    {cs : List Char} (hfuel : bytes.length ≤ fuel) (hfuel' : bytes.length ≤ fuel')
    (h : readUtf8From position fuel bytes = .ok cs) :
    readUtf8From position' fuel' bytes = .ok cs := by
  induction fuel generalizing bytes cs position position' fuel' with
  | zero =>
    cases List.length_eq_zero_iff.mp (Nat.le_zero.mp hfuel)
    cases fuel' with
    | zero => exact h
    | succ fuel' => exact h
  | succ fuel ih =>
    cases bytes with
    | nil =>
      cases fuel' with
      | zero => exact h
      | succ fuel' => exact h
    | cons byte bytes =>
      rw [List.length_cons] at hfuel hfuel'
      obtain ⟨fuel', rfl⟩ : ∃ n, fuel' = n + 1 := Nat.exists_eq_add_one.mpr (by omega)
      rw [readUtf8From] at h ⊢
      split at h
      · next c length hstep =>
        have hlength : (bytes.drop (length - 1)).length ≤ bytes.length := by
          rw [List.length_drop]
          exact Nat.sub_le ..
        obtain ⟨rest, hrest, rfl⟩ := map_eq_ok_iff.mp h
        exact map_eq_ok_iff.mpr ⟨rest, ih (by omega) (by omega) hrest, rfl⟩
      · cases h

theorem readUtf8_encodeChar_append (c : Char) {bytes : List UInt8} {text : String}
    (h : readUtf8 bytes = .ok text) :
    readUtf8 (String.utf8EncodeChar c ++ bytes) = .ok (String.ofList (c :: text.toList)) := by
  obtain ⟨byte, more, hbytes, hstep⟩ := utf8Step_encodeChar c bytes
  rw [readUtf8] at h
  cases hcs : readUtf8From 0 bytes.length bytes with
  | error fault =>
    rw [hcs] at h
    cases h
  | ok cs =>
    rw [hcs] at h
    cases h
    have hrest : readUtf8From (0 + (more.length + 1)) (more ++ bytes).length bytes = .ok cs := by
      refine readUtf8From_eq_ok (Nat.le_refl _) ?_ hcs
      rw [List.length_append]
      exact Nat.le_add_left ..
    rw [readUtf8, hbytes, List.cons_append, List.length_cons, readUtf8From, hstep]
    simp only [Nat.add_sub_cancel, List.drop_left, hrest, String.toList_ofList]
    rfl

end Text

namespace Files.Tree

variable {t : Tree} {place q : Place} {bytes bytes' : List UInt8}

private theorem ne_nil_of_file (hfile : t.at? place = some (.file bytes)) : place ≠ [] := by
  rintro rfl
  cases hfile

private theorem follow_put_file (hfile : t.at? place = some (.file bytes)) (q : Place)
    (parts : List String) : (t.put place (.file bytes')).follow q parts = t.follow q parts := by
  induction parts generalizing q with
  | nil => rfl
  | cons part parts ih =>
    rw [follow, follow, at?_put (ne_nil_of_file hfile)]
    by_cases hq : q = place
    · rw [if_pos hq, hq, hfile]
    · rw [if_neg hq]
      split
      · rfl
      · rfl
      · exact ih _

private theorem place_put_file (hfile : t.at? place = some (.file bytes)) (p : Path) :
    (t.put place (.file bytes')).place p = t.place p :=
  follow_put_file hfile _ p.parts

theorem exists?_put_file (hfile : t.at? place = some (.file bytes)) (p : Path) :
    (t.put place (.file bytes')).exists? p = t.exists? p := by
  rw [exists?, exists?, node?, node?, place_put_file hfile]
  cases t.place p with
  | error cause => rfl
  | ok q =>
    simp only [at?_put (ne_nil_of_file hfile)]
    split
    · next hq => rw [hq, hfile]; rfl
    · rfl

/-- The path is read as before, or it is that of the file. -/
theorem read_put_file (hfile : t.at? place = some (.file bytes)) (p : Path) :
    (t.put place (.file bytes')).read p = t.read p ∨
      t.read p = .ok bytes ∧ (t.put place (.file bytes')).read p = .ok bytes' := by
  rw [read, read, place_put_file hfile]
  cases t.place p with
  | error cause => exact .inl rfl
  | ok q =>
    simp only [at?_put (ne_nil_of_file hfile)]
    by_cases hq : q = place
    · refine .inr ?_
      rw [if_pos hq, hq, hfile]
      exact ⟨rfl, rfl⟩
    · refine .inl ?_
      rw [if_neg hq]

end Files.Tree

namespace Toml

def read? (text : String) : Option Fields := (read text).toOption

/-- A text begins with a blank or a visible character when it is read. -/
theorem front_of_read {c : Char} {cs : List Char} {text : String} {fields : Fields}
    (h : read text = .ok fields) (htext : text.toList = c :: cs) :
    Text.isBlank c = true ∨ Visible c := by
  obtain ⟨d, hlines, _⟩ := exists_readLines_of_read h
  by_cases hreturn : c = '\r'
  · rw [hreturn]
    exact .inl (by decide)
  rw [htext, joinReturns_cons hreturn] at hlines
  rcases front_of_readLines hlines with hspace | hvisible
  · simp only [isLayout, isSpace, Bool.or_eq_true, beq_iff_eq] at hspace
    rcases hspace with (rfl | rfl) | rfl
    · exact .inl (by decide)
    · exact .inl (by decide)
    · exact .inl (by decide)
  · exact .inr hvisible

end Toml

namespace Settings

open Files (Place Path Tree)

private theorem read_marked (cs : List Char) :
    Toml.read (String.ofList (byteOrderMark :: cs)) = .error .malformed := by
  rw [Toml.read, String.toList_ofList, Toml.joinReturns_cons (by decide),
    Toml.readLines_of_not_visible (by decide) (by decide)]
  rfl

private theorem read_clean_marked {text : String} {fields : Toml.Fields}
    (h : Toml.read text = .ok fields) :
    Toml.read (clean (String.ofList (byteOrderMark :: text.toList))) = .ok fields := by
  have hstrip := Toml.read_strip h
  have hchars : (Text.strip (Text.withLineFeeds text)).toList =
      Text.stripChars (Text.unifyLineEnds text.toList) := by
    rw [Text.toList_strip, Text.withLineFeeds, String.toList_ofList]
  -- A document that begins with no blank begins with no invisible character.
  have hfront : (Text.strip (Text.withLineFeeds text)).toList.dropWhile
      (fun c => invisible.contains c.toNat) = (Text.strip (Text.withLineFeeds text)).toList := by
    cases hcs : (Text.strip (Text.withLineFeeds text)).toList with
    | nil => rfl
    | cons c cs =>
      have htrimmed := Text.trimmed_stripChars (Text.unifyLineEnds text.toList)
      rw [← hchars, hcs] at htrimmed
      have hvisible : Toml.Visible c := by
        rcases Toml.front_of_read hstrip hcs with hblank | hvisible
        · rw [htrimmed.head c rfl] at hblank
          cases hblank
        · exact hvisible
      apply List.dropWhile_cons_of_neg
      intro hinvisible
      have hall : ∀ n ∈ invisible, ¬(0x20 < n ∧ n < 0x7F) := by decide
      exact hall c.toNat (List.contains_iff_mem.mp hinvisible) hvisible
  rw [clean, String.toList_ofList]
  simp only [if_true]
  rw [← hchars, hfront, String.ofList_toList]
  exact hstrip

/-- The bytes of a file with a byte order mark in front. -/
def marked (bytes : List UInt8) : List UInt8 := String.utf8EncodeChar byteOrderMark ++ bytes

private theorem readFields_marked {bytes : List UInt8} {text : String}
    (hutf8 : Text.readUtf8 bytes = .ok text) (htoml : (Toml.read? text).isSome = true)
    (path : Path) : readFields path (marked bytes) = readFields path bytes := by
  obtain ⟨fields, hsome⟩ := Option.isSome_iff_exists.mp htoml
  have hfields := toOption_eq_some_iff.mp hsome
  have hplain : readFields path bytes = .ok fields := by
    simp only [readFields, hutf8, hfields]
  rw [hplain, marked]
  simp only [readFields, Text.readUtf8_encodeChar_append byteOrderMark hutf8, read_marked,
    read_clean_marked hfields]

/-- A byte order mark in front of a file that holds a document changes nothing for settings. -/
theorem load_marked {t : Tree} {place : Place} {bytes : List UInt8} {text : String}
    (hfile : t.at? place = some (.file bytes)) (hutf8 : Text.readUtf8 bytes = .ok text)
    (htoml : (Toml.read? text).isSome = true) (env path : Option String) :
    load (t.put place (.file (marked bytes))) env path = load t env path := by
  have hofFile (p : Path) : ofFile (t.put place (.file (marked bytes))) p = ofFile t p := by
    rcases Tree.read_put_file hfile p with hread | ⟨hread, hread'⟩
    · rw [ofFile, ofFile, hread]
    · have hfields := readFields_marked hutf8 htoml p
      rw [ofFile, ofFile, hread, hread']
      change readFields p (marked bytes) >>= _ = readFields p bytes >>= _
      rw [hfields]
  have hcurrent : (t.put place (.file (marked bytes))).current = t.current := rfl
  rw [load, load, hcurrent]
  simp only [Tree.exists?_put_file hfile, hofFile]

def projectText : String := "\r\n[env]\r\nproject_name = 'audit' # ours\r\n \t"

def projectTree : Tree where
  current := []
  nodes := [(["audit.toml"], .file projectText.toUTF8.toList)]

def projectSettings : Settings :=
  { env := { projectName := "audit" }, batch := { inputDir := "/input", outputDir := "/output" } }

theorem projectTree_marked :
    projectTree.at? ["audit.toml"] = some (.file projectText.toUTF8.toList) ∧
      Text.readUtf8 projectText.toUTF8.toList = .ok projectText ∧
      (Toml.read? projectText).isSome = true ∧
      load projectTree none (some "audit.toml") = .ok projectSettings ∧
      load (projectTree.put ["audit.toml"] (.file (marked projectText.toUTF8.toList))) none
        (some "audit.toml") = load projectTree none (some "audit.toml") := by
  have hfile : projectTree.at? ["audit.toml"] = some (.file projectText.toUTF8.toList) := by
    simp [projectTree, Tree.at?]
  have hutf8 := Text.readUtf8_toUTF8 projectText
  have htoml : (Toml.read? projectText).isSome = true := by decide +kernel
  have hsome : (load projectTree none (some "audit.toml")).toOption = some projectSettings := by
    decide +kernel
  exact ⟨hfile, hutf8, htoml, toOption_eq_some_iff.mp hsome,
    load_marked hfile hutf8 htoml none (some "audit.toml")⟩

end Settings

end ClauseAudit
