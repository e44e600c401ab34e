import ClauseAudit.Text.Blank
import ClauseAudit.Text.Letters
import Mathlib.Data.List.DropRight

/-!
# Stripped texts

Stripping leaves a text without blanks at its ends and changes no text that has none there.
-/

namespace ClauseAudit.Text

/-- Neither the first nor the last character is blank. -/
structure Trimmed (cs : List Char) : Prop where
  head : ∀ c, cs.head? = some c → isBlank c = false
  last : ∀ c, cs.getLast? = some c → isBlank c = false

private theorem stripRight_eq_rdropWhile (cs : List Char) :
    stripRight cs = cs.rdropWhile isBlank := rfl

private theorem head?_stripLeft (cs : List Char) :
    ∀ c, (stripLeft cs).head? = some c → isBlank c = false := by
  intro c hc
  have h := List.head?_dropWhile_not isBlank cs
  rw [stripLeft] at hc
  simpa only [hc] using h

private theorem head?_stripRight (cs : List Char) (c : Char)
    (hc : (stripRight cs).head? = some c) : cs.head? = some c := by
  rw [stripRight_eq_rdropWhile] at hc
  obtain ⟨tail, htail⟩ := List.rdropWhile_prefix isBlank cs
  rw [← htail, List.head?_append, hc]
  rfl

private theorem getLast?_stripRight (cs : List Char) :
    ∀ c, (stripRight cs).getLast? = some c → isBlank c = false := by
  intro c hc
  rw [stripRight, List.getLast?_reverse] at hc
  exact head?_stripLeft cs.reverse c hc

theorem trimmed_stripChars (cs : List Char) : Trimmed (stripChars cs) where
  head := fun c hc => head?_stripLeft cs c (head?_stripRight _ c hc)
  last := getLast?_stripRight _

theorem Trimmed.stripChars_eq {cs : List Char} (h : Trimmed cs) : stripChars cs = cs := by
  have hleft : stripLeft cs = cs := by
    cases cs with
    | nil => rfl
    | cons c cs => simp [stripLeft, h.head c rfl]
  rw [stripChars, hleft, stripRight_eq_rdropWhile, List.rdropWhile_eq_self_iff]
  intro hne
  have hlast := h.last (cs.getLast hne) (List.getLast?_eq_getLast_of_ne_nil hne)
  simp [hlast]

private theorem stripChars_eq_self_iff (cs : List Char) : stripChars cs = cs ↔ Trimmed cs := by
  constructor
  · intro h
    rw [← h]
    exact trimmed_stripChars cs
  · exact Trimmed.stripChars_eq

/-- Only the two ends of a text decide whether it is trimmed. -/
theorem trimmed_append {cs ds : List Char} (hcs : cs ≠ []) (hds : ds ≠ [])
    (head : ∀ c, cs.head? = some c → isBlank c = false)
    (last : ∀ c, ds.getLast? = some c → isBlank c = false) : Trimmed (cs ++ ds) where
  head := by
    intro c hc
    rw [List.head?_append_of_ne_nil cs hcs] at hc
    exact head c hc
  last := by
    intro c hc
    rw [List.getLast?_append_of_ne_nil cs hds] at hc
    exact last c hc

theorem stripChars_concat {c : Char} (hc : isBlank c = true) (cs : List Char) :
    stripChars (cs ++ [c]) = stripChars cs := by
  have hright (ds : List Char) : stripRight (ds ++ [c]) = stripRight ds := by
    rw [stripRight, stripRight, List.reverse_concat, stripLeft, List.dropWhile_cons_of_pos hc]
    rfl
  rw [stripChars, stripChars, stripLeft, stripLeft, List.dropWhile_append]
  split
  · next hnil =>
    rw [List.isEmpty_iff] at hnil
    rw [hnil, List.dropWhile_cons_of_pos hc]
    rfl
  · exact hright _

theorem stripChars_append_blank {ws : List Char} (hws : ∀ c ∈ ws, isBlank c = true)
    (cs : List Char) : stripChars (cs ++ ws) = stripChars cs := by
  induction ws using List.reverseRecOn with
  | nil => rw [List.append_nil]
  | append_singleton ws c ih =>
    rw [← List.append_assoc, stripChars_concat (hws c (by simp))]
    exact ih fun d hd => hws d (List.mem_append_left _ hd)

theorem stripChars_blank_append {ws : List Char} (hws : ∀ c ∈ ws, isBlank c = true)
    (cs : List Char) : stripChars (ws ++ cs) = stripChars cs := by
  rw [stripChars, stripLeft, List.dropWhile_append_of_pos hws]
  rfl

/-- A text is what is left of it when it is stripped, between blanks. -/
theorem exists_eq_append_stripChars (cs : List Char) :
    ∃ front back, (∀ c ∈ front, isBlank c = true) ∧ (∀ c ∈ back, isBlank c = true) ∧
      cs = front ++ stripChars cs ++ back := by
  refine ⟨cs.takeWhile isBlank, (stripLeft cs).rtakeWhile isBlank, ?_, ?_, ?_⟩
  · exact fun c hc => List.mem_takeWhile_imp hc
  · exact fun c hc => List.mem_rtakeWhile_imp hc
  · have hback : stripChars cs ++ (stripLeft cs).rtakeWhile isBlank = stripLeft cs :=
      List.rdropWhile_append_rtakeWhile ..
    rw [List.append_assoc, hback, stripLeft, List.takeWhile_append_dropWhile]

theorem stripChars_eq_nil_iff {cs : List Char} :
    stripChars cs = [] ↔ ∀ c ∈ cs, isBlank c = true := by
  constructor
  · intro h
    rw [stripChars, stripRight_eq_rdropWhile, List.rdropWhile_eq_nil_iff] at h
    -- What is left after the blanks at the front has none of its own there.
    have hleft : stripLeft cs = [] := by
      cases hcs : stripLeft cs with
      | nil => rfl
      | cons c rest =>
        have hblank := h c (by rw [hcs]; exact List.mem_cons_self)
        have hhead := head?_stripLeft cs c (by rw [hcs]; rfl)
        rw [hblank] at hhead
        cases hhead
    rwa [stripLeft, List.dropWhile_eq_nil_iff] at hleft
  · intro h
    have hnil := stripChars_append_blank h []
    rwa [List.nil_append] at hnil

@[simp] theorem toList_strip (s : String) : (strip s).toList = stripChars s.toList :=
  String.toList_ofList

theorem strip_eq_self_iff (s : String) : strip s = s ↔ Trimmed s.toList := by
  rw [← String.toList_inj, toList_strip, stripChars_eq_self_iff]

theorem isBlank_of_isAsciiLetter {c : Char} (h : isAsciiLetter c = true) :
    isBlank c = false := by
  have hbounds : 65 ≤ c.toNat ∧ c.toNat ≤ 122 := by
    simp only [isAsciiLetter, Bool.or_eq_true, Bool.and_eq_true, decide_eq_true_eq, Char.le_def,
      UInt32.le_iff_toNat_le] at h
    rcases h with ⟨hfirst, hlast⟩ | ⟨hfirst, hlast⟩
    · exact ⟨le_trans (by decide) hfirst, hlast⟩
    · exact ⟨hfirst, le_trans hlast (by decide)⟩
  obtain ⟨hfirst, hlast⟩ := hbounds
  simp only [isBlank, Ranges.contains, blankRanges, List.any_cons, List.any_nil, Bool.or_false,
    Bool.or_eq_false_iff, Bool.and_eq_false_iff, decide_eq_false_iff_not]
  omega

end ClauseAudit.Text
