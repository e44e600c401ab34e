import ClauseAudit.Proofs.Text.Blank
import ClauseAudit.Proofs.Text.Lines
import ClauseAudit.Text.Utf8

/-!
# Line ends made alike

Making all line ends of a text line feeds leaves its lines as they are, unless a carriage return
stands without a line feed: such a one is a character of a line before, and ends a line after.
Putting a carriage return before every line feed leaves the lines as they are up to the blanks at
their ends, and so does putting a text after another one, with a line feed between them. Words
without line breaks are found in the text with these returns where they are found in the text.
-/

namespace ClauseAudit.Text

/-- Every carriage return has a line feed directly after it. -/
def PairedReturns (cs : List Char) : Prop :=
  ∀ before after, cs = before ++ '\r' :: after → after.head? = some '\n'

private theorem PairedReturns.tail {c : Char} {cs : List Char} (h : PairedReturns (c :: cs)) :
    PairedReturns cs :=
  fun before after hcs => h (c :: before) after (congrArg (c :: ·) hcs)

theorem PairedReturns.of_notMem {cs : List Char} (h : '\r' ∉ cs) : PairedReturns cs := by
  rintro before after rfl
  exact absurd (List.mem_append_right before List.mem_cons_self) h

theorem unifyLineEnds_cons {c : Char} {cs : List Char} (hc : c ≠ '\r') :
    unifyLineEnds (c :: cs) = c :: unifyLineEnds cs := by
  rw [unifyLineEnds]
  · exact fun _ hreturn => absurd hreturn hc
  · exact hc

private theorem linesFrom_unifyLineEnds {line cs : List Char} (h : PairedReturns cs) :
    linesFrom line (unifyLineEnds cs) = linesFrom line cs := by
  fun_induction linesFrom line cs with
  | case1 line => rfl
  | case2 line rest ih =>
    rw [unifyLineEnds, linesFrom, ih h.tail.tail]
  | case3 line rest ih =>
    rw [unifyLineEnds_cons (by decide), linesFrom, ih h.tail]
  | case4 line c rest hpair hfeed ih =>
    -- A carriage return here would have its line feed, and be the case of both.
    have hreturn : c ≠ '\r' := by
      rintro rfl
      obtain ⟨rest', rfl⟩ := List.head?_eq_some_iff.mp (h [] rest rfl)
      exact hpair rest' rfl rfl
    rw [unifyLineEnds_cons hreturn, linesFrom_cons line hfeed fun hc => absurd hc hreturn,
      ih h.tail]

theorem lines_withLineFeeds {s : String} (h : PairedReturns s.toList) :
    lines (withLineFeeds s) = lines s := by
  rw [lines, withLineFeeds, String.toList_ofList, linesFrom_unifyLineEnds h, lines]

/-- A carriage return before every line feed. -/
def returnBeforeFeed (cs : List Char) : List Char :=
  cs.flatMap fun c => if c = '\n' then ['\r', '\n'] else [c]

def withReturns (s : String) : String := String.ofList (returnBeforeFeed s.toList)

theorem returnBeforeFeed_feed (cs : List Char) :
    returnBeforeFeed ('\n' :: cs) = '\r' :: '\n' :: returnBeforeFeed cs := rfl

theorem returnBeforeFeed_cons {c : Char} (hc : c ≠ '\n') (cs : List Char) :
    returnBeforeFeed (c :: cs) = c :: returnBeforeFeed cs := by
  simp [returnBeforeFeed, hc]

theorem head?_returnBeforeFeed (cs : List Char) : (returnBeforeFeed cs).head? ≠ some '\n' := by
  cases cs with
  | nil => simp [returnBeforeFeed]
  | cons c cs =>
    by_cases hc : c = '\n'
    · rw [hc, returnBeforeFeed_feed]
      simp
    · rw [returnBeforeFeed_cons hc]
      simpa using hc

theorem returnBeforeFeed_append (cs ds : List Char) :
    returnBeforeFeed (cs ++ ds) = returnBeforeFeed cs ++ returnBeforeFeed ds :=
  List.flatMap_append

theorem returnBeforeFeed_of_notMem {cs : List Char} (h : '\n' ∉ cs) : returnBeforeFeed cs = cs := by
  induction cs with
  | nil => rfl
  | cons c cs ih =>
    simp only [List.mem_cons, not_or] at h
    rw [returnBeforeFeed_cons (Ne.symm h.1), ih h.2]

theorem subset_returnBeforeFeed (cs : List Char) : cs ⊆ returnBeforeFeed cs := by
  intro c hc
  refine List.mem_flatMap.mpr ⟨c, hc, ?_⟩
  split <;> simp_all

theorem isBlank_of_mem_returnBeforeFeed {cs : List Char} (h : ∀ c ∈ cs, isBlank c = true) :
    ∀ c ∈ returnBeforeFeed cs, isBlank c = true := by
  intro c hc
  obtain ⟨d, hd, hc⟩ := List.mem_flatMap.mp hc
  split at hc
  · simp only [List.mem_cons, List.not_mem_nil, or_false] at hc
    rcases hc with rfl | rfl <;> decide
  · rw [List.mem_singleton.mp hc]
    exact h d hd

theorem getLast?_returnBeforeFeed (cs : List Char) :
    (returnBeforeFeed cs).getLast? = cs.getLast? := by
  obtain rfl | ⟨cs, c, rfl⟩ := List.eq_nil_or_concat' cs
  · rfl
  · rw [returnBeforeFeed_append, List.getLast?_append, List.getLast?_concat]
    by_cases hc : c = '\n' <;> simp [returnBeforeFeed, hc]

theorem head?_returnBeforeFeed_of_ne {cs : List Char} (h : cs.head? ≠ some '\n') :
    (returnBeforeFeed cs).head? = cs.head? := by
  cases cs with
  | nil => rfl
  | cons c cs =>
    have hc : c ≠ '\n' := by simpa using h
    rw [returnBeforeFeed_cons hc]; rfl

private theorem Trimmed.returnBeforeFeed {cs : List Char} (h : Trimmed cs) :
    Trimmed (returnBeforeFeed cs) where
  head := by
    rw [head?_returnBeforeFeed_of_ne]
    · exact h.head
    · intro hfeed
      cases h.head _ hfeed
  last := by
    rw [getLast?_returnBeforeFeed]
    exact h.last

theorem stripChars_returnBeforeFeed (cs : List Char) :
    stripChars (returnBeforeFeed cs) = returnBeforeFeed (stripChars cs) := by
  obtain ⟨front, back, hfront, hback, hcs⟩ := exists_eq_append_stripChars cs
  calc stripChars (returnBeforeFeed cs)
      = stripChars (returnBeforeFeed front ++ returnBeforeFeed (stripChars cs) ++
          returnBeforeFeed back) := by
        conv_lhs => rw [hcs, returnBeforeFeed_append, returnBeforeFeed_append]
    _ = stripChars (returnBeforeFeed (stripChars cs)) := by
        rw [stripChars_append_blank (isBlank_of_mem_returnBeforeFeed hback),
          stripChars_blank_append (isBlank_of_mem_returnBeforeFeed hfront)]
    _ = returnBeforeFeed (stripChars cs) :=
        (trimmed_stripChars cs).returnBeforeFeed.stripChars_eq

theorem exists_of_returnBeforeFeed_eq {cs before after : List Char}
    (h : returnBeforeFeed cs = before ++ '\n' :: after) : ∃ b a, cs = b ++ '\n' :: a ∧
      before = returnBeforeFeed b ++ ['\r'] ∧ after = returnBeforeFeed a := by
  induction cs generalizing before with
  | nil => simp [returnBeforeFeed] at h
  | cons c cs ih =>
    by_cases hc : c = '\n'
    · rw [hc, returnBeforeFeed_feed] at h
      rcases before with _ | ⟨d, _ | ⟨e, before⟩⟩
      · simp at h
      · simp at h
        exact ⟨[], cs, by rw [hc]; rfl, by simp [← h.1, returnBeforeFeed], h.2.symm⟩
      · simp at h
        obtain ⟨b, a, rfl, rfl, rfl⟩ := ih h.2.2
        exact ⟨c :: b, a, rfl, by rw [hc, returnBeforeFeed_feed, ← h.1, ← h.2.1]; rfl, rfl⟩
    · rw [returnBeforeFeed_cons hc] at h
      rcases before with _ | ⟨d, before⟩
      · simp at h
        exact absurd h.1 hc
      · simp at h
        obtain ⟨b, a, rfl, rfl, rfl⟩ := ih h.2
        exact ⟨c :: b, a, rfl, by rw [returnBeforeFeed_cons hc, h.1]; rfl, rfl⟩

section Infix

variable {w : List Char} (hfeed : '\n' ∉ w) (hreturn : '\r' ∉ w)

include hfeed hreturn

private theorem prefix_of_prefix_returnBeforeFeed {cs : List Char} (h : w <+: returnBeforeFeed cs) :
    w <+: cs := by
  induction w generalizing cs with
  | nil => exact List.nil_prefix
  | cons d w ih =>
    simp only [List.mem_cons, not_or] at hfeed hreturn
    cases cs with
    | nil => simp [returnBeforeFeed] at h
    | cons c cs =>
      by_cases hc : c = '\n'
      · rw [hc, returnBeforeFeed_feed, List.cons_prefix_cons] at h
        exact absurd h.1.symm hreturn.1
      · rw [returnBeforeFeed_cons hc, List.cons_prefix_cons] at h
        exact List.cons_prefix_cons.mpr ⟨h.1, ih hfeed.2 hreturn.2 h.2⟩

theorem infix_returnBeforeFeed_iff {cs : List Char} : w <:+: returnBeforeFeed cs ↔ w <:+: cs := by
  constructor
  · intro h
    induction cs with
    | nil => exact h
    | cons c cs ih =>
      by_cases hc : c = '\n'
      · rw [hc, returnBeforeFeed_feed, infix_cons_of_notMem hreturn, infix_cons_of_notMem hfeed] at h
        rw [hc, infix_cons_of_notMem hfeed]
        exact ih h
      · by_cases hprefix : w <+: returnBeforeFeed (c :: cs)
        · exact (prefix_of_prefix_returnBeforeFeed hfeed hreturn hprefix).isInfix
        · rw [returnBeforeFeed_cons hc, List.infix_cons_iff, ← returnBeforeFeed_cons hc] at h
          exact List.infix_cons (ih (h.resolve_left hprefix))
  · intro h
    obtain ⟨u, v, rfl⟩ := h
    rw [returnBeforeFeed_append, returnBeforeFeed_append, returnBeforeFeed_of_notMem hfeed]
    exact List.infix_append _ _ _

end Infix

private theorem strip_linesFrom_returnBeforeFeed (line cs : List Char) :
    (linesFrom line (returnBeforeFeed cs)).map stripChars = (linesFrom line cs).map stripChars := by
  fun_induction linesFrom line cs with
  | case1 line => rfl
  | case2 line rest ih =>
    -- The return of the text is a character of the line now, and blank.
    rw [returnBeforeFeed_cons (by decide), returnBeforeFeed_feed,
      linesFrom_cons line (by decide) (by simp), linesFrom, List.map_cons, List.map_cons, ih,
      List.reverse_cons, stripChars_concat (by decide)]
  | case3 line rest ih => rw [returnBeforeFeed_feed, linesFrom, List.map_cons, List.map_cons, ih]
  | case4 line c rest _ hfeed ih =>
    rw [returnBeforeFeed_cons hfeed,
      linesFrom_cons line hfeed fun _ => head?_returnBeforeFeed rest, ih]

private theorem map_strip_ofList (ls : List (List Char)) :
    (ls.map String.ofList).map strip = (ls.map stripChars).map String.ofList := by
  simp [strip, Function.comp_def]

theorem strip_lines_withReturns (s : String) :
    (lines (withReturns s)).map strip = (lines s).map strip := by
  rw [lines, lines, map_strip_ofList, map_strip_ofList, withReturns, String.toList_ofList,
    strip_linesFrom_returnBeforeFeed]

/-- After a line feed new lines begin. It may take a carriage return away from the line before it,
where the return is blank. -/
theorem exists_linesFrom_append (line cs rest : List Char) :
    ∃ ls, linesFrom line (cs ++ '\n' :: rest) = ls ++ linesFrom [] rest ∧
      ls.map stripChars = (linesFrom line cs).map stripChars := by
  fun_induction linesFrom line cs with
  | case1 line => exact ⟨[line.reverse], by rw [List.nil_append, linesFrom]; rfl, rfl⟩
  | case2 line cs ih =>
    obtain ⟨ls, hls, hstrip⟩ := ih
    refine ⟨line.reverse :: ls, ?_, by rw [List.map_cons, List.map_cons, hstrip]⟩
    rw [List.cons_append, List.cons_append, linesFrom, hls, List.cons_append]
  | case3 line cs ih =>
    obtain ⟨ls, hls, hstrip⟩ := ih
    refine ⟨line.reverse :: ls, ?_, by rw [List.map_cons, List.map_cons, hstrip]⟩
    rw [List.cons_append, linesFrom, hls, List.cons_append]
  | case4 line c cs hreturn hfeed ih =>
    by_cases hlast : c = '\r' ∧ cs = []
    · obtain ⟨rfl, rfl⟩ := hlast
      refine ⟨[line.reverse], by rw [List.singleton_append, linesFrom]; rfl, ?_⟩
      rw [linesFrom, List.map_singleton, List.map_singleton, List.reverse_cons,
        stripChars_concat (by decide)]
    · obtain ⟨ls, hls, hstrip⟩ := ih
      refine ⟨ls, ?_, hstrip⟩
      rw [List.cons_append, linesFrom_cons line hfeed, hls]
      rintro hc hhead
      cases cs with
      | nil => exact hlast ⟨hc, rfl⟩
      | cons d cs => exact hreturn cs hc (by rw [Option.some.inj hhead])

/-- The lines of two texts with a line feed between them: those of the second one come after as many
lines as the first one has, which are the same up to the blanks at their ends. -/
theorem exists_lines_append (t u : String) :
    ∃ ls, lines (t ++ "\n" ++ u) = ls ++ lines u ∧ ls.map strip = (lines t).map strip := by
  obtain ⟨ls, hls, hstrip⟩ := exists_linesFrom_append [] t.toList u.toList
  have hlist : (t ++ "\n" ++ u).toList = t.toList ++ '\n' :: u.toList := by simp
  refine ⟨ls.map String.ofList, ?_, ?_⟩
  · rw [lines, hlist, hls, List.map_append, lines]
  · rw [map_strip_ofList, lines, map_strip_ofList, hstrip]

theorem length_lines_append (t u : String) :
    (lines (t ++ "\n" ++ u)).length = (lines t).length + (lines u).length := by
  obtain ⟨ls, hlines, hstrip⟩ := exists_lines_append t u
  rw [hlines, List.length_append, ← List.length_map strip, hstrip, List.length_map]

end ClauseAudit.Text
