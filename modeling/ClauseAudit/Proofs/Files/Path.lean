import ClauseAudit.Files.Path
import Mathlib.Data.List.Basic

/-!
# Names in paths

The parts that a text is read into are names of entries, or lead up. The name of an entry is a path
of its own, and the text of a path ends with the name of the entry that it leads to.
-/

namespace ClauseAudit.Files

/-- A name that an entry of a directory may have. -/
structure EntryName (name : String) : Prop where
  ne_empty : name ≠ ""
  ne_dot : name ≠ "."
  ne_up : name ≠ ".."
  noSlash : '/' ∉ name.toList

instance (name : String) : Decidable (EntryName name) :=
  decidable_of_iff (name ≠ "" ∧ name ≠ "." ∧ name ≠ ".." ∧ '/' ∉ name.toList)
    ⟨fun ⟨hempty, hdot, hup, hslash⟩ => ⟨hempty, hdot, hup, hslash⟩,
      fun h => ⟨h.ne_empty, h.ne_dot, h.ne_up, h.noSlash⟩⟩

private theorem notMem_of_mem_splitOn {a : Char} {cs piece : List Char} (h : piece ∈ cs.splitOn a) :
    a ∉ piece := by
  induction cs generalizing piece with
  | nil =>
    rw [List.splitOn_nil, List.mem_singleton] at h
    simp [h]
  | cons c cs ih =>
    rw [List.splitOn_cons_eq_if_modifyHead] at h
    split at h
    · rcases List.mem_cons.mp h with rfl | h
      · exact List.not_mem_nil
      · exact ih h
    · next hc =>
      obtain ⟨first, rest, hpieces⟩ := List.exists_cons_of_ne_nil (List.splitOn_ne_nil a cs)
      rw [hpieces, List.modifyHead_cons] at h
      rw [hpieces] at ih
      rcases List.mem_cons.mp h with rfl | h
      · have hne : a ≠ c := fun heq => hc (by simp [heq])
        simpa [hne] using ih List.mem_cons_self
      · exact ih (List.mem_cons_of_mem _ h)

namespace Path

/-- All parts lead to an entry, or up. -/
def Clean (p : Path) : Prop := ∀ part ∈ p.parts, part ≠ ".." → EntryName part

theorem clean_ofText (s : String) : (ofText s).Clean := by
  intro part hpart hup
  obtain ⟨hmem, hpart⟩ := List.mem_filter.mp hpart
  obtain ⟨piece, hpiece, rfl⟩ := List.mem_map.mp hmem
  simp only [Bool.not_eq_true', Bool.or_eq_false_iff, String.isEmpty_eq_false_iff,
    beq_eq_false_iff_ne] at hpart
  refine ⟨hpart.1, hpart.2, hup, ?_⟩
  rw [String.toList_ofList]
  exact notMem_of_mem_splitOn hpiece

theorem Clean.parent {p : Path} (hp : p.Clean) : p.parent.Clean :=
  fun part hpart => hp part (List.dropLast_subset _ hpart)

theorem Clean.child {p : Path} (hp : p.Clean) {name : String}
    (hname : name ≠ ".." → EntryName name) : (p.child name).Clean := by
  intro part hpart
  rcases List.mem_append.mp hpart with hpart | hpart
  · exact hp part hpart
  · rwa [List.mem_singleton.mp hpart]

theorem name_child (p : Path) (name : String) : (p.child name).name = name := by
  rw [Path.name, Path.child, List.getLast?_concat]
  rfl

theorem parent_child (p : Path) (name : String) : (p.child name).parent = p := by
  rw [Path.parent, Path.child, List.dropLast_concat]

theorem Clean.noSlash_name {p : Path} (hp : p.Clean) : '/' ∉ p.name.toList := by
  rw [Path.name]
  cases hlast : p.parts.getLast? with
  | none => simp
  | some part =>
    by_cases hup : part = ".."
    · simp [hup]
    · exact (hp part (List.mem_of_getLast? hlast) hup).noSlash

private theorem rootOf_eq_empty {cs : List Char} (h : '/' ∉ cs) : rootOf cs = "" := by
  unfold rootOf
  split
  · simp at h
  · simp at h
  · simp at h
  · rfl

theorem join_ofText (p : Path) {name : String} (h : EntryName name) :
    p.join (ofText name) = p.child name := by
  have hparts : (ofText name).parts = [name] := by
    rw [ofText, splitSlashes, List.splitOn_eq_singleton h.noSlash, List.map_singleton,
      String.ofList_toList]
    simp [h.ne_empty, h.ne_dot]
  have hrelative : (ofText name).isAbsolute = false := by
    rw [isAbsolute, ofText, rootOf_eq_empty h.noSlash]
    rfl
  rw [join, hrelative, hparts]
  rfl

theorem intercalate_concat (parts : List String) :
    ∃ front, ∀ name, String.intercalate "/" (parts ++ [name]) = front ++ name := by
  induction parts with
  | nil => exact ⟨"", fun name => by simp⟩
  | cons part parts ih =>
    obtain ⟨front, hfront⟩ := ih
    refine ⟨part ++ "/" ++ front, fun name => ?_⟩
    cases parts with
    | nil =>
      have hempty := hfront name
      rw [List.nil_append] at hempty
      rw [List.singleton_append, String.intercalate_cons_cons, hempty, String.append_assoc,
        String.append_assoc, String.append_assoc]
    | cons next parts =>
      rw [List.cons_append, List.cons_append, String.intercalate_cons_cons, ← List.cons_append,
        hfront, String.append_assoc, String.append_assoc, String.append_assoc]

theorem text_child_inj (p : Path) {a b : String} : (p.child a).text = (p.child b).text ↔ a = b := by
  obtain ⟨front, hfront⟩ := intercalate_concat p.parts
  have htext (name : String) : (p.child name).text = p.root ++ (front ++ name) := by
    simp [text, child, hfront]
  rw [htext, htext]
  constructor
  · intro h
    have hlist := congrArg String.toList h
    simp only [String.toList_append, List.append_cancel_left_eq] at hlist
    exact String.toList_injective hlist
  · rintro rfl
    rfl

end Path

end ClauseAudit.Files
