import Mathlib.Data.List.Basic
import ClauseAudit.Proofs.Aligned
import ClauseAudit.Text.Lines

/-!
# Lines put together and taken apart

Joining lines with line feeds can be undone, as long as no line holds a line feed or ends with a
carriage return, which would be taken for a part of the line break. Joined with both characters,
any lines without line feeds are the lines of a text.
-/

namespace ClauseAudit.Text

theorem hasInfix_iff {needle cs : List Char} : hasInfix needle cs = true ↔ needle <:+: cs := by
  induction cs with
  | nil => rw [hasInfix, List.isEmpty_iff, List.infix_nil]
  | cons c rest ih =>
    rw [hasInfix, Bool.or_eq_true, List.isPrefixOf_iff_prefix, ih, List.infix_cons_iff]

theorem infix_cons_of_notMem {w cs : List Char} {c : Char} (hc : c ∉ w) :
    w <:+: c :: cs ↔ w <:+: cs := by
  rw [List.infix_cons_iff]
  constructor
  · intro h
    rcases h with hprefix | hinfix
    · cases w with
      | nil => exact List.nil_infix
      | cons d w =>
        simp only [List.mem_cons, not_or] at hc
        exact absurd (List.cons_prefix_cons.mp hprefix).1 (Ne.symm hc.1)
    · exact hinfix
  · exact Or.inr

theorem cons_infix_append_iff {w cs ds : List Char} {c : Char} (hc : c ∉ cs) :
    c :: w <:+: cs ++ ds ↔ c :: w <:+: ds := by
  induction cs with
  | nil => rfl
  | cons d cs ih =>
    rw [List.mem_cons, not_or] at hc
    rw [List.cons_append, List.infix_cons_iff, List.cons_prefix_cons, ih hc.2]
    simp [hc.1]

theorem infix_append_iff_of_notMem {w xs ys : List Char} (hw : w ≠ []) (h : ∀ c ∈ ys, c ∉ w) :
    w <:+: xs ++ ys ↔ w <:+: xs := by
  induction ys generalizing xs with
  | nil => rw [List.append_nil]
  | cons y ys ih =>
    obtain ⟨hy, hys⟩ := List.forall_mem_cons.mp h
    rw [List.append_cons, ih hys, List.infix_concat_iff]
    constructor
    · rintro (hsuffix | hinfix)
      · rcases List.suffix_concat_iff.mp hsuffix with hnil | ⟨t, rfl, _⟩
        · exact absurd hnil hw
        · exact absurd (List.mem_append_right t List.mem_cons_self) hy
      · exact hinfix
    · exact Or.inr

/-- Characters that stand on one line together with a line feed after them. -/
structure Unbroken (cs : List Char) : Prop where
  noFeed : '\n' ∉ cs
  noReturn : cs.getLast? ≠ some '\r'

/-- A carriage return counts as part of a line break only directly before the line feed. -/
theorem linesFrom_cons {c : Char} {rest : List Char} (line : List Char) (hc : c ≠ '\n')
    (hrest : c = '\r' → rest.head? ≠ some '\n') :
    linesFrom line (c :: rest) = linesFrom (c :: line) rest := by
  cases rest with
  | nil => simp [linesFrom]
  | cons d rest =>
    have hpair : ¬(c = '\r' ∧ d = '\n') := fun h => hrest h.1 (congrArg some h.2)
    rw [linesFrom]
    · rintro tail rfl htail
      exact hpair ⟨rfl, (List.cons.inj htail).1⟩
    · exact hc

theorem linesFrom_append {cs : List Char} (h : Unbroken cs) (line rest : List Char) :
    linesFrom line (cs ++ '\n' :: rest) = (line.reverse ++ cs) :: linesFrom [] rest := by
  induction cs generalizing line with
  | nil => simp [linesFrom]
  | cons c cs ih =>
    have hfeed : c ≠ '\n' ∧ '\n' ∉ cs := by
      have := h.noFeed
      simp only [List.mem_cons, not_or] at this
      exact ⟨Ne.symm this.1, this.2⟩
    have htail : Unbroken cs := by
      refine ⟨hfeed.2, ?_⟩
      intro hlast
      apply h.noReturn
      rw [List.getLast?_cons, hlast]
      rfl
    rw [List.cons_append, linesFrom_cons line hfeed.1, ih htail, List.reverse_cons,
      List.append_assoc, List.singleton_append]
    rintro rfl hhead
    -- the line feed after the carriage return would have to be the one after the line
    cases cs with
    | nil => exact h.noReturn rfl
    | cons d cs =>
      have hd : d = '\n' := by simpa using hhead
      exact hfeed.2 (by simp [hd])

private theorem linesFrom_of_notMem {cs : List Char} (h : '\n' ∉ cs) (line : List Char) :
    linesFrom line cs = [line.reverse ++ cs] := by
  induction cs generalizing line with
  | nil => simp [linesFrom]
  | cons c cs ih =>
    simp only [List.mem_cons, not_or] at h
    rw [linesFrom_cons line (Ne.symm h.1), ih h.2, List.reverse_cons, List.append_assoc,
      List.singleton_append]
    intro _ hhead
    exact h.2 (List.mem_of_mem_head? hhead)

theorem lines_joinLines {ls : List String} (hne : ls ≠ [])
    (h : ∀ l ∈ ls, Unbroken l.toList) : lines (joinLines ls) = ls := by
  induction ls with
  | nil => exact absurd rfl hne
  | cons l ls ih =>
    have hl : Unbroken l.toList := h l (by simp)
    cases ls with
    | nil => simp [lines, joinLines, linesFrom_of_notMem hl.noFeed]
    | cons l' ls =>
      have hrest := ih (by simp) (fun k hk => h k (List.mem_cons_of_mem l hk))
      have hjoin : (joinLines (l :: l' :: ls)).toList =
          l.toList ++ '\n' :: (joinLines (l' :: ls)).toList := by
        simp [joinLines, String.intercalate_cons_cons]
      rw [lines, hjoin, linesFrom_append hl, List.map_cons, List.reverse_nil, List.nil_append,
        String.ofList_toList]
      exact congrArg (List.cons l) hrest

/-! ## Which lists are the lines of a text -/

theorem linesFrom_ne_nil (line cs : List Char) : linesFrom line cs ≠ [] := by
  fun_induction linesFrom line cs with
  | case1 line => exact List.cons_ne_nil _ _
  | case2 line rest => exact List.cons_ne_nil _ _
  | case3 line rest => exact List.cons_ne_nil _ _
  | case4 line c rest _ _ ih => exact ih

theorem lines_ne_nil (text : String) : lines text ≠ [] := by
  rw [lines, ne_eq, List.map_eq_nil_iff]
  exact linesFrom_ne_nil _ _

theorem notMem_of_mem_linesFrom {line cs : List Char} (hline : '\n' ∉ line) :
    ∀ l ∈ linesFrom line cs, '\n' ∉ l := by
  fun_induction linesFrom line cs with
  | case1 line => simpa using hline
  | case2 line rest ih =>
    rw [List.forall_mem_cons, List.mem_reverse]
    exact ⟨hline, ih List.not_mem_nil⟩
  | case3 line rest ih =>
    rw [List.forall_mem_cons, List.mem_reverse]
    exact ⟨hline, ih List.not_mem_nil⟩
  | case4 line c rest _ hc ih => exact ih (by simpa using ⟨Ne.symm hc, hline⟩)

private theorem linesFrom_append_return {cs : List Char} (h : '\n' ∉ cs) (line rest : List Char) :
    linesFrom line (cs ++ '\r' :: '\n' :: rest) = (line.reverse ++ cs) :: linesFrom [] rest := by
  induction cs generalizing line with
  | nil => simp [linesFrom]
  | cons c cs ih =>
    simp only [List.mem_cons, not_or] at h
    rw [List.cons_append, linesFrom_cons line (Ne.symm h.1), ih h.2, List.reverse_cons,
      List.append_assoc, List.singleton_append]
    intro _ hhead
    cases cs with
    | nil => cases hhead
    | cons d cs => exact h.2 (by rw [← Option.some.inj hhead]; exact List.mem_cons_self)

theorem exists_lines_eq_iff {ls : List String} :
    (∃ text, lines text = ls) ↔ ls ≠ [] ∧ ∀ l ∈ ls, '\n' ∉ l.toList := by
  constructor
  · rintro ⟨text, rfl⟩
    refine ⟨lines_ne_nil text, ?_⟩
    intro l hl
    obtain ⟨cs, hcs, rfl⟩ := List.mem_map.mp hl
    rw [String.toList_ofList]
    exact notMem_of_mem_linesFrom List.not_mem_nil cs hcs
  · rintro ⟨hne, h⟩
    induction ls with
    | nil => exact absurd rfl hne
    | cons l ls ih =>
      obtain ⟨hl, hrest⟩ := List.forall_mem_cons.mp h
      cases ls with
      | nil => exact ⟨l, by simp [lines, linesFrom_of_notMem hl]⟩
      | cons l' ls =>
        obtain ⟨text, htext⟩ := ih (List.cons_ne_nil _ _) hrest
        refine ⟨l ++ "\r\n" ++ text, ?_⟩
        have hbreak : (l ++ "\r\n" ++ text).toList = l.toList ++ '\r' :: '\n' :: text.toList := by
          simp
        rw [lines, hbreak, linesFrom_append_return hl, List.map_cons, List.reverse_nil,
          List.nil_append, String.ofList_toList]
        exact congrArg (List.cons l) htext

/-! ## Parts between line feeds -/

private theorem exists_splitOn (cs : List Char) : ∃ first rest, cs.splitOn '\n' = first :: rest ∧
    ∀ w : List Char, '\n' ∉ w → (w <+: first ↔ w <+: cs) ∧
      ((∃ line ∈ rest, w <+: line) ↔ '\n' :: w <:+: cs) := by
  induction cs with
  | nil => exact ⟨[], [], rfl, fun w _ => by simp⟩
  | cons c cs ih =>
    obtain ⟨first, rest, hsplit, ih⟩ := ih
    by_cases hc : c = '\n'
    · refine ⟨[], first :: rest, ?_, fun w hw => ⟨?_, ?_⟩⟩
      · rw [List.splitOn_cons_eq_if_modifyHead, if_pos (beq_iff_eq.mpr hc), hsplit]
      · cases w with
        | nil => simp
        | cons d w =>
          have hd : d ≠ '\n' := fun h => hw (by simp [h])
          simp [List.cons_prefix_cons, hc, hd]
      · obtain ⟨hfirst, hrest⟩ := ih w hw
        rw [List.exists_mem_cons_iff, hfirst, hrest, hc, List.infix_cons_iff,
          List.cons_prefix_cons]
        simp
    · refine ⟨c :: first, rest, ?_, fun w hw => ⟨?_, ?_⟩⟩
      · rw [List.splitOn_cons_eq_if_modifyHead, if_neg (mt beq_iff_eq.mp hc), hsplit]
        rfl
      · cases w with
        | nil => simp
        | cons d w =>
          rw [List.mem_cons, not_or] at hw
          rw [List.cons_prefix_cons, List.cons_prefix_cons, (ih w hw.2).1]
      · rw [(ih w hw).2, List.infix_cons_iff, List.cons_prefix_cons]
        simp [Ne.symm hc]

/-- The parts of a text between its line feeds. -/
def cut (s : String) : List String := (s.toList.splitOn '\n').map String.ofList

theorem cut_of_notMem {s : String} (h : '\n' ∉ s.toList) : cut s = [s] := by
  rw [cut, List.splitOn_eq_singleton h, List.map_singleton, String.ofList_toList]

theorem flatMap_cut_eq_self {ls : List String} (h : ∀ l ∈ ls, '\n' ∉ l.toList) :
    ls.flatMap cut = ls :=
  flatMap_eq_self fun l hl => cut_of_notMem (h l hl)

theorem cut_joinLines {ls : List String} (hne : ls ≠ []) :
    cut (joinLines ls) = ls.flatMap cut := by
  induction ls with
  | nil => exact absurd rfl hne
  | cons l ls ih =>
    by_cases hls : ls = []
    · rw [hls, joinLines, String.intercalate_singleton, List.flatMap_singleton]
    · obtain ⟨m, ms, rfl⟩ := List.exists_cons_of_ne_nil hls
      have hjoin : (joinLines (l :: m :: ms)).toList =
          l.toList ++ '\n' :: (joinLines (m :: ms)).toList := by
        simp [joinLines, String.intercalate_cons_cons]
      rw [cut, hjoin, List.splitOn_append_cons_self, List.map_append, List.flatMap_cons]
      exact congrArg _ (ih hls)

theorem cut_append {s : String} (h : '\n' ∉ s.toList) (t : String) :
    cut (s ++ t) = (s ++ (cut t).headD "") :: (cut t).tail := by
  have hsplit (cs : List Char) (hcs : '\n' ∉ cs) (ds : List Char) : (cs ++ ds).splitOn '\n' =
      (cs ++ (ds.splitOn '\n').headD []) :: (ds.splitOn '\n').tail := by
    induction cs with
    | nil =>
      obtain ⟨first, rest, hds⟩ := List.exists_cons_of_ne_nil (List.splitOn_ne_nil '\n' ds)
      rw [List.nil_append, hds]
      rfl
    | cons c cs ih =>
      rw [List.mem_cons, not_or] at hcs
      rw [List.cons_append, List.splitOn_cons_eq_if_modifyHead, if_neg (by simpa using Ne.symm hcs.1),
        ih hcs.2]
      rfl
  obtain ⟨first, rest, ht⟩ := List.exists_cons_of_ne_nil (List.splitOn_ne_nil '\n' t.toList)
  rw [cut, String.toList_append, hsplit _ h, cut, ht]
  simp [String.ofList_append]

def begins (mark line : String) : Bool := mark.toList.isPrefixOf line.toList

private theorem begins_iff {mark line : String} : begins mark line = true ↔
    mark.toList <+: line.toList :=
  List.isPrefixOf_iff_prefix

theorem begins_append_self (mark s : String) : begins mark (mark ++ s) = true := by
  rw [begins_iff, String.toList_append]
  exact List.prefix_append _ _

theorem begins_append_of_apart {mark other : String} (h : ¬mark.toList <+: other.toList)
    (h' : ¬other.toList <+: mark.toList) (s : String) : begins mark (other ++ s) = false := by
  rw [Bool.eq_false_iff, ne_eq, begins_iff, String.toList_append]
  intro hprefix
  rcases List.prefix_or_prefix_of_prefix hprefix (List.prefix_append _ _) with hmark | hother
  · exact h hmark
  · exact h' hother

/-- A mark begins a later part of a text where it stands behind a line feed. -/
theorem exists_begins_tail_cut_iff {mark s : String} (h : '\n' ∉ mark.toList) :
    (∃ line ∈ (cut s).tail, begins mark line = true) ↔ '\n' :: mark.toList <:+: s.toList := by
  obtain ⟨first, rest, hsplit, hw⟩ := exists_splitOn s.toList
  rw [← (hw _ h).2, cut, hsplit, List.map_cons, List.tail_cons]
  simp [begins_iff]

end ClauseAudit.Text
