import ClauseAudit.Files.Tree
import ClauseAudit.Proofs.Files.Path

/-!
# Resolved paths

A path is resolved by following its components: what is left of them is the place that they lead
to. The text of an absolute path is read as this path again.
-/

namespace ClauseAudit.Files

/-- Where the components of a path lead, one after the other: an empty one and a single dot stay,
double dots go up and not above the root, and a name goes down to an entry. -/
inductive Leads : Place → List String → Place → Prop where
  | arrive (place : Place) : Leads place [] place
  | stay {place q : Place} {part : String} {rest : List String} (hpart : part = "" ∨ part = ".")
      (h : Leads place rest q) : Leads place (part :: rest) q
  | up {place q : Place} {rest : List String} (h : Leads place.dropLast rest q) :
      Leads place (".." :: rest) q
  | down {place q : Place} {part : String} {rest : List String} (hempty : part ≠ "")
      (hdot : part ≠ ".") (hup : part ≠ "..") (h : Leads (place ++ [part]) rest q) :
      Leads place (part :: rest) q

namespace Path

def isKept (part : String) : Bool := !(part.isEmpty || part == ".")

private theorem isKept_iff {part : String} : isKept part = true ↔ part ≠ "" ∧ part ≠ "." := by
  simp [isKept]

/-- One step of resolving, on what is done from its end. -/
def climb (done : List String) (part : String) : List String :=
  if part == ".." then done.drop 1 else part :: done

theorem normalParts_eq (parts : List String) :
    normalParts parts = (parts.foldl climb []).reverse := rfl

private theorem climb_up (done : List String) : climb done ".." = done.drop 1 := rfl

private theorem climb_name {part : String} (h : part ≠ "..") (done : List String) :
    climb done part = part :: done := by
  simp [climb, h]

theorem foldl_climb_names {parts : List String} (h : ".." ∉ parts) (done : List String) :
    parts.foldl climb done = parts.reverse ++ done := by
  induction parts generalizing done with
  | nil => rfl
  | cons part parts ih =>
    simp only [List.mem_cons, not_or] at h
    rw [List.foldl_cons, climb_name (Ne.symm h.1), ih h.2, List.reverse_cons, List.append_assoc,
      List.singleton_append]

/-- Resolving follows the components. -/
theorem leads_iff {done components : List String} {q : Place} :
    Leads done.reverse components q ↔
      q = ((components.filter isKept).foldl climb done).reverse := by
  induction components generalizing done with
  | nil =>
    constructor
    · intro h
      cases h
      rfl
    · intro h
      rw [h]
      exact .arrive _
  | cons part components ih =>
    by_cases hkept : isKept part = true
    · obtain ⟨hempty, hdot⟩ := isKept_iff.mp hkept
      rw [List.filter_cons_of_pos hkept, List.foldl_cons]
      by_cases hup : part = ".."
      · subst hup
        have hlast : done.reverse.dropLast = (done.drop 1).reverse := by
          rw [List.drop_one, List.dropLast_reverse]
        rw [climb_up, ← ih, ← hlast]
        constructor
        · intro h
          cases h with
          | stay hpart => simp at hpart
          | up h => exact h
          | down _ _ hup => exact absurd rfl hup
        · exact .up
      · rw [climb_name hup, ← ih, List.reverse_cons]
        constructor
        · intro h
          cases h with
          | stay hpart => exact absurd hpart (not_or.mpr ⟨hempty, hdot⟩)
          | up => exact absurd rfl hup
          | down _ _ _ h => exact h
        · exact .down hempty hdot hup
    · rw [List.filter_cons_of_neg hkept, ← ih]
      have hpart : part = "" ∨ part = "." := by
        rw [isKept_iff, not_and_or, not_not, not_not] at hkept
        exact hkept
      constructor
      · intro h
        cases h with
        | stay _ h => exact h
        | up => simp at hpart
        | down hempty hdot => exact absurd hpart (not_or.mpr ⟨hempty, hdot⟩)
      · exact .stay hpart

private theorem entryName_of_mem_climb {parts done : List String}
    (hparts : ∀ part ∈ parts, part ≠ ".." → EntryName part)
    (hdone : ∀ part ∈ done, EntryName part) :
    ∀ part ∈ parts.foldl climb done, EntryName part := by
  induction parts generalizing done with
  | nil => exact hdone
  | cons part parts ih =>
    obtain ⟨hpart, hparts⟩ := List.forall_mem_cons.mp hparts
    rw [List.foldl_cons]
    apply ih hparts
    by_cases hup : part = ".."
    · rw [hup, climb_up]
      exact fun name hname => hdone name (List.mem_of_mem_drop hname)
    · rw [climb_name hup]
      exact List.forall_mem_cons.mpr ⟨hpart hup, hdone⟩

theorem Clean.normalParts {p : Path} (hp : p.Clean) :
    ∀ part ∈ Path.normalParts p.parts, EntryName part := by
  intro part hpart
  rw [normalParts_eq, List.mem_reverse] at hpart
  exact entryName_of_mem_climb hp (fun _ h => by cases h) part hpart

/-! ## Texts of absolute paths -/

def IsPart (part : String) : Prop := isKept part = true ∧ '/' ∉ part.toList

theorem isPart_of_entryName {part : String} (h : EntryName part) : IsPart part :=
  ⟨isKept_iff.mpr ⟨h.ne_empty, h.ne_dot⟩, h.noSlash⟩

theorem Clean.isPart {p : Path} (hp : p.Clean) : ∀ part ∈ p.parts, IsPart part := by
  intro part hpart
  by_cases hup : part = ".."
  · rw [hup]
    exact ⟨by decide, by decide⟩
  · exact isPart_of_entryName (hp part hpart hup)

private theorem splitSlashes_slash (cs : List Char) : splitSlashes ('/' :: cs) =
    "" :: splitSlashes cs := by
  rw [splitSlashes, List.splitOn_cons_eq_if_modifyHead, if_pos (by decide), List.map_cons]
  rfl

theorem rootOf_append {root : String} (hroot : root = "/" ∨ root = "//") {cs : List Char}
    (h : cs.head? ≠ some '/') : rootOf (root.toList ++ cs) = root := by
  cases cs with
  | nil =>
    cases hroot with
    | inl hroot => rw [hroot]; rfl
    | inr hroot => rw [hroot]; rfl
  | cons c cs =>
    have hc : c ≠ '/' := by simpa using h
    cases hroot with
    | inl hroot => simp [hroot, rootOf, hc]
    | inr hroot => simp [hroot, rootOf, hc]

section Written

variable {parts : List String} (hparts : ∀ part ∈ parts, IsPart part)

include hparts

private theorem filter_splitSlashes :
    (splitSlashes (['/'].intercalate (parts.map String.toList))).filter isKept = parts := by
  by_cases hnil : parts = []
  · rw [hnil]
    rfl
  · have hslash : ∀ l ∈ parts.map String.toList, '/' ∉ l := by
      intro l hl
      obtain ⟨part, hpart, rfl⟩ := List.mem_map.mp hl
      exact (hparts part hpart).2
    have hmap : (parts.map String.toList).map String.ofList = parts := by
      simp [Function.comp_def]
    rw [splitSlashes, List.splitOn_intercalate '/' hslash (by simpa using hnil), hmap,
      List.filter_eq_self]
    exact fun part hpart => (hparts part hpart).1

theorem head_intercalate :
    (['/'].intercalate (parts.map String.toList)).head? ≠ some '/' := by
  cases parts with
  | nil => simp
  | cons part parts =>
    obtain ⟨hkept, hslash⟩ := hparts part List.mem_cons_self
    have hne : part.toList ≠ [] := by
      intro hnil
      exact (isKept_iff.mp hkept).1 (String.toList_eq_nil_iff.mp hnil)
    obtain ⟨c, cs, hcs⟩ := List.exists_cons_of_ne_nil hne
    rw [hcs] at hslash
    have hc : c ≠ '/' := fun h => hslash (by simp [h])
    cases parts with
    | nil => simpa [hcs] using hc
    | cons next parts => simpa [hcs, List.intercalate_cons_cons] using hc

theorem ofText_text {root : String} (hroot : root = "/" ∨ root = "//") :
    ofText (text ⟨root, parts⟩) = ⟨root, parts⟩ := by
  have hsplit := filter_splitSlashes hparts
  have hhead := head_intercalate hparts
  have htext : (text ⟨root, parts⟩).toList =
      root.toList ++ ['/'].intercalate (parts.map String.toList) := by
    have hempty : root.isEmpty = false := by
      cases hroot with
      | inl h => rw [h]; rfl
      | inr h => rw [h]; rfl
    simp [text, hempty, String.toList_intercalate]
  generalize ['/'].intercalate (parts.map String.toList) = cs at hsplit hhead htext
  have hpartsOf : (splitSlashes (root.toList ++ cs)).filter isKept = parts := by
    cases hroot with
    | inl h =>
      rw [h]
      change (splitSlashes ('/' :: cs)).filter isKept = parts
      rw [splitSlashes_slash, List.filter_cons_of_neg (by decide), hsplit]
    | inr h =>
      rw [h]
      change (splitSlashes ('/' :: '/' :: cs)).filter isKept = parts
      rw [splitSlashes_slash, splitSlashes_slash, List.filter_cons_of_neg (by decide),
        List.filter_cons_of_neg (by decide), hsplit]
  change Path.mk _ _ = _
  rw [htext, rootOf_append hroot hhead]
  exact congrArg _ hpartsOf

end Written

end Path

end ClauseAudit.Files
