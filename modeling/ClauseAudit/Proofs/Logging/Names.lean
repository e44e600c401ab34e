import ClauseAudit.Logging.Registry
import Mathlib.Data.List.Infix

/-!
# Dotted names

A logger stands below those whose names are its own up to a dot. The names above it are found from
its last character on, and the search passes over the character before a dot; so it finds all of
them in names that have no two dots in a row.
-/

namespace ClauseAudit.Logging

/-- What stands before each dot, the longest first; all characters are given from the last one. -/
def beforeDots : List Char → List (List Char)
  | [] => []
  | c :: rest => if c = '.' ∧ rest ≠ [] then rest.reverse :: beforeDots rest else beforeDots rest

/-- A logger, those above it from the nearest on, and the root. -/
def lineage (name : String) : List String :=
  name :: ((beforeDots name.toList.reverse).map String.ofList).filter (· ≠ rootName) ++ [rootName]

/-- One name stands above another, which is the same up to a dot. -/
def IsAbove (upper lower : String) : Prop :=
  upper ≠ "" ∧ ∃ rest, lower.toList = upper.toList ++ '.' :: rest

section Characters

variable {cs u : List Char}

theorem mem_beforeDots_iff : u ∈ beforeDots cs ↔ u ≠ [] ∧ ∃ rest, cs.reverse = u ++ '.' :: rest := by
  induction cs with
  | nil => simp [beforeDots]
  | cons c cs ih =>
    have hstep : (∃ rest, (c :: cs).reverse = u ++ '.' :: rest) ↔
        (c = '.' ∧ cs.reverse = u) ∨ ∃ rest, cs.reverse = u ++ '.' :: rest := by
      rw [List.reverse_cons]
      constructor
      · rintro ⟨rest, h⟩
        rcases List.eq_nil_or_concat rest with rfl | ⟨rest, d, rfl⟩
        · obtain ⟨hu, hc⟩ := List.append_inj' h rfl
          exact .inl ⟨(List.cons.inj hc).1, hu⟩
        · rw [List.concat_eq_append, ← List.cons_append, ← List.append_assoc] at h
          exact .inr ⟨rest, (List.append_inj' h rfl).1⟩
      · rintro (⟨rfl, rfl⟩ | ⟨rest, h⟩)
        · exact ⟨[], rfl⟩
        · exact ⟨rest ++ [c], by rw [h, List.append_assoc, List.cons_append]⟩
    rw [beforeDots, hstep]
    split
    · next h =>
      rw [List.mem_cons, ih]
      constructor
      · rintro (rfl | ⟨hne, hrest⟩)
        · exact ⟨by simpa using h.2, .inl ⟨h.1, rfl⟩⟩
        · exact ⟨hne, .inr hrest⟩
      · rintro ⟨hne, ⟨_, rfl⟩ | hrest⟩
        · exact .inl rfl
        · exact .inr ⟨hne, hrest⟩
    · next h =>
      rw [ih]
      refine and_congr_right fun hne => ⟨.inr, ?_⟩
      rintro (⟨rfl, rfl⟩ | hrest)
      · exact absurd ⟨rfl, by simpa using hne⟩ h
      · exact hrest

private theorem fronts_sublist_beforeDots (cs : List Char) : (fronts cs).Sublist
    (beforeDots cs) := by
  fun_induction fronts cs with
  | case1 => exact List.Sublist.refl _
  | case2 c rest ih =>
    have hdot : beforeDots ('.' :: c :: rest) = (c :: rest).reverse :: beforeDots (c :: rest) := by
      simp [beforeDots]
    rw [hdot]
    refine (ih.trans ?_).cons_cons _
    rw [beforeDots]
    split
    · exact List.sublist_cons_self _ _
    · exact List.Sublist.refl _
  | case3 c rest _ ih =>
    refine ih.trans ?_
    rw [beforeDots]
    split
    · exact List.sublist_cons_self _ _
    · exact List.Sublist.refl _

/-- Without two dots in a row nothing is passed over. -/
theorem fronts_eq_beforeDots (h : ¬['.', '.'] <:+: cs) : fronts cs = beforeDots cs := by
  fun_induction fronts cs with
  | case1 => rfl
  | case2 c rest ih =>
    have hc : c ≠ '.' := by
      rintro rfl
      exact h ⟨[], rest, rfl⟩
    have hrest : ¬['.', '.'] <:+: rest := fun hdots =>
      h (hdots.trans (List.suffix_append ['.', c] rest).isInfix)
    rw [ih hrest]
    simp [beforeDots, hc]
  | case3 c rest hcase ih =>
    have hrest : ¬['.', '.'] <:+: rest := fun hdots =>
      h (hdots.trans (List.suffix_cons c rest).isInfix)
    rw [ih hrest]
    have hnot : ¬(c = '.' ∧ rest ≠ []) := by
      rintro ⟨rfl, hne⟩
      obtain ⟨d, more, rfl⟩ := List.exists_cons_of_ne_nil hne
      exact hcase d more rfl rfl
    rw [beforeDots, if_neg hnot]

theorem length_lt_of_mem_beforeDots (h : u ∈ beforeDots cs) : u.length < cs.length := by
  obtain ⟨_, rest, hrest⟩ := mem_beforeDots_iff.mp h
  rw [← @List.length_reverse _ cs, hrest, List.length_append, List.length_cons]
  omega

private theorem pairwise_beforeDots (cs : List Char) :
    (beforeDots cs).Pairwise fun a b => b.length < a.length := by
  induction cs with
  | nil => exact List.Pairwise.nil
  | cons c cs ih =>
    rw [beforeDots]
    split
    · refine List.Pairwise.cons (fun u hu => ?_) ih
      rw [List.length_reverse]
      exact length_lt_of_mem_beforeDots hu
    · exact ih

private theorem beforeDots_suffix {before after : List (List Char)}
    (h : beforeDots cs = before ++ u :: after) : after = beforeDots u.reverse := by
  induction cs generalizing before with
  | nil => simp [beforeDots] at h
  | cons c cs ih =>
    rw [beforeDots] at h
    split at h
    · cases before with
      | nil =>
        obtain ⟨rfl, rfl⟩ := List.cons.inj h
        rw [List.reverse_reverse]
      | cons b before => exact ih (List.cons.inj h).2
    · exact ih h

end Characters

section Names

variable {name upper : String}

private theorem isAbove_iff : IsAbove upper name ↔
    upper.toList ∈ beforeDots name.toList.reverse := by
  rw [IsAbove, mem_beforeDots_iff, List.reverse_reverse, ne_eq, ne_eq, String.toList_eq_nil_iff]

theorem isAbove_of_mem_namesAbove (h : upper ∈ namesAbove name) : IsAbove upper name := by
  obtain ⟨u, hu, rfl⟩ := List.mem_map.mp h
  rw [isAbove_iff, String.toList_ofList]
  exact (fronts_sublist_beforeDots _).subset hu

theorem IsAbove.length_lt (h : IsAbove upper name) : upper.length < name.length := by
  have hlength := length_lt_of_mem_beforeDots (isAbove_iff.mp h)
  rwa [List.length_reverse, String.length_toList, String.length_toList] at hlength

theorem IsAbove.trans {other : String} (h : IsAbove upper name) (hother : IsAbove name other) :
    IsAbove upper other := by
  obtain ⟨hne, rest, hrest⟩ := h
  obtain ⟨_, rest', hrest'⟩ := hother
  exact ⟨hne, rest ++ '.' :: rest', by rw [hrest', hrest, List.append_assoc, List.cons_append]⟩

theorem IsAbove.isPrefixOf_iff {other : String} (h : IsAbove upper name)
    (hother : IsAbove other name) :
    upper.toList.isPrefixOf other.toList = true ↔ upper.length ≤ other.length := by
  obtain ⟨_, rest, hrest⟩ := h
  obtain ⟨_, rest', hrest'⟩ := hother
  rw [List.isPrefixOf_iff_prefix]
  constructor
  · intro hprefix
    have hlength := hprefix.length_le
    rwa [String.length_toList, String.length_toList] at hlength
  · intro hlength
    refine List.prefix_of_prefix_length_le ⟨_, hrest.symm⟩ ⟨_, hrest'.symm⟩ ?_
    rwa [String.length_toList, String.length_toList]

theorem pairwise_namesAbove (name : String) :
    (namesAbove name).Pairwise fun a b => b.length < a.length := by
  rw [namesAbove, List.pairwise_map]
  refine ((pairwise_beforeDots _).sublist (fronts_sublist_beforeDots _)).imp fun h => ?_
  rwa [String.length_ofList, String.length_ofList]

/-- No two dots in a row. -/
def Spaced (name : String) : Prop := ¬['.', '.'] <:+: name.toList

instance (name : String) : Decidable (Spaced name) :=
  inferInstanceAs (Decidable ¬['.', '.'] <:+: name.toList)

theorem Spaced.namesAbove_eq (h : Spaced name) :
    namesAbove name = (beforeDots name.toList.reverse).map String.ofList := by
  rw [namesAbove, fronts_eq_beforeDots]
  rw [Spaced, ← List.reverse_infix] at h
  exact h

theorem Spaced.of_isAbove (h : Spaced name) (habove : IsAbove upper name) : Spaced upper := by
  obtain ⟨_, rest, hrest⟩ := habove
  refine fun hdots => h (hdots.trans ?_)
  rw [hrest]
  exact (List.prefix_append _ _).isInfix

theorem Spaced.namesAbove_suffix (h : Spaced name) {before after : List String}
    (hsplit : namesAbove name = before ++ upper :: after) : after = namesAbove upper := by
  have hupper : Spaced upper := h.of_isAbove
    (isAbove_of_mem_namesAbove (hsplit ▸ List.mem_append_right _ List.mem_cons_self))
  rw [h.namesAbove_eq, List.map_eq_append_iff] at hsplit
  obtain ⟨fs, gs, hfronts, rfl, hgs⟩ := hsplit
  obtain ⟨u, us, rfl, rfl, rfl⟩ := List.map_eq_cons_iff.mp hgs
  rw [hupper.namesAbove_eq, String.toList_ofList, beforeDots_suffix hfronts]

end Names

end ClauseAudit.Logging
