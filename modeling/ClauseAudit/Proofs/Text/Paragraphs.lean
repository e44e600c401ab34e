import ClauseAudit.Proofs.Text.Blank

/-!
# Paragraphs

The lines of a text end at its line feeds, and lines of white space stand between paragraphs. A text
with a blank line inside has the paragraphs before this line and those after it. A text without one
is a single paragraph, unless it is blank.
-/

namespace ClauseAudit.Text

def isBlankLine (line : List Char) : Bool := line.all isBlank

/-- The maximal runs of lines that are not blank. -/
def runs (lines : List (List Char)) : List (List (List Char)) :=
  (lines.splitOnP isBlankLine).filter (!·.isEmpty)

def paragraph (lines : List (List Char)) : List Char := stripChars (['\n'].intercalate lines)

/-- The paragraphs of a text. -/
def paragraphs (cs : List Char) : List (List Char) := (runs (cs.splitOn '\n')).map paragraph

private theorem isBlankLine_iff {line : List Char} :
    isBlankLine line = true ↔ ∀ c ∈ line, isBlank c = true := by
  rw [isBlankLine, List.all_eq_true]

theorem isBlank_newline : isBlank '\n' = true := by decide

section Lines

variable {lines rest : List (List Char)} {line : List Char}

/-! ## Runs of lines -/

private theorem runs_append_blank (h : isBlankLine line = true) :
    runs (lines ++ line :: rest) = runs lines ++ runs rest := by
  rw [runs, List.splitOnP_append_cons lines rest h, List.filter_append]
  rfl

theorem runs_blank_cons (h : isBlankLine line = true) : runs (line :: rest) = runs rest :=
  @runs_append_blank [] rest line h

private theorem runs_concat_blank (h : isBlankLine line = true) : runs (lines ++ [line]) =
    runs lines := by
  rw [runs_append_blank h]
  exact List.append_nil _

theorem runs_blanks_append (h : ∀ l ∈ lines, isBlankLine l = true) :
    runs (lines ++ rest) = runs rest := by
  induction lines with
  | nil => rfl
  | cons l lines ih =>
    obtain ⟨hl, hlines⟩ := List.forall_mem_cons.mp h
    rw [List.cons_append, runs_blank_cons hl, ih hlines]

private theorem runs_full (hne : lines ≠ []) (h : ∀ l ∈ lines, isBlankLine l = false) :
    runs lines = [lines] := by
  rw [runs, List.splitOnP_eq_singleton h]
  simp [hne]

/-! ## Lines put together -/

theorem intercalate_cons (hrest : rest ≠ []) :
    ['\n'].intercalate (line :: rest) = line ++ '\n' :: ['\n'].intercalate rest := by
  obtain ⟨l, rest, rfl⟩ := List.exists_cons_of_ne_nil hrest
  rw [List.intercalate_cons_cons, List.append_assoc, List.singleton_append]

theorem intercalate_append (hlines : lines ≠ []) (hrest : rest ≠ []) :
    ['\n'].intercalate (lines ++ rest) =
      ['\n'].intercalate lines ++ '\n' :: ['\n'].intercalate rest := by
  induction lines with
  | nil => exact absurd rfl hlines
  | cons l lines ih =>
    by_cases hnil : lines = []
    · rw [hnil, List.singleton_append, intercalate_cons hrest, List.intercalate_singleton]
    · rw [List.cons_append, intercalate_cons (List.append_ne_nil_of_left_ne_nil hnil rest), ih hnil,
        intercalate_cons hnil, List.append_assoc, List.cons_append]

theorem mem_intercalate (hline : line ∈ lines) {c : Char} (hc : c ∈ line) :
    c ∈ ['\n'].intercalate lines := by
  induction lines with
  | nil => cases hline
  | cons l lines ih =>
    by_cases hnil : lines = []
    · rw [hnil, List.mem_singleton] at hline
      rwa [hnil, List.intercalate_singleton, ← hline]
    · rw [intercalate_cons hnil, List.mem_append]
      rcases List.mem_cons.mp hline with rfl | hline
      · exact .inl hc
      · exact .inr (List.mem_cons_of_mem _ (ih hline))

theorem paragraph_blank_cons (h : isBlankLine line = true) :
    paragraph (line :: rest) = paragraph rest := by
  have hline := isBlankLine_iff.mp h
  by_cases hrest : rest = []
  · rw [hrest, paragraph, List.intercalate_singleton, stripChars_eq_nil_iff.mpr hline]
    rfl
  · have hfront : ∀ c ∈ line ++ ['\n'], isBlank c = true :=
      List.forall_mem_append.mpr ⟨hline, List.forall_mem_singleton.mpr isBlank_newline⟩
    rw [paragraph, intercalate_cons hrest, List.append_cons, stripChars_blank_append hfront]
    rfl

private theorem paragraph_concat_blank (h : isBlankLine line = true) :
    paragraph (lines ++ [line]) = paragraph lines := by
  by_cases hlines : lines = []
  · rw [hlines]
    exact paragraph_blank_cons h
  · have hback : ∀ c ∈ '\n' :: line, isBlank c = true :=
      List.forall_mem_cons.mpr ⟨isBlank_newline, isBlankLine_iff.mp h⟩
    rw [paragraph, intercalate_append hlines (List.cons_ne_nil _ _), List.intercalate_singleton,
      stripChars_append_blank hback]
    rfl

theorem paragraph_ne_nil (hne : lines ≠ []) (h : ∀ l ∈ lines, isBlankLine l = false) :
    paragraph lines ≠ [] := by
  obtain ⟨l, rest, rfl⟩ := List.exists_cons_of_ne_nil hne
  intro hnil
  have hblank : isBlankLine l = true := by
    rw [isBlankLine_iff]
    intro c hc
    exact stripChars_eq_nil_iff.mp hnil c (mem_intercalate List.mem_cons_self hc)
  rw [h l List.mem_cons_self] at hblank
  cases hblank

/-! ## Lines of one paragraph -/

/-- The lines are one paragraph, or none when all of them are blank. -/
def Single (lines : List (List Char)) : Prop :=
  (runs lines).map paragraph = [paragraph lines].filter (!·.isEmpty)

private theorem single_full (h : ∀ l ∈ lines, isBlankLine l = false) : Single lines := by
  by_cases hne : lines = []
  · rw [hne]
    rfl
  · simp [Single, runs_full hne h, paragraph_ne_nil hne h]

theorem single_cons (line : List Char) (h : ∀ l ∈ rest, isBlankLine l = false) :
    Single (line :: rest) := by
  cases hline : isBlankLine line with
  | true =>
    rw [Single, runs_blank_cons hline, paragraph_blank_cons hline]
    exact single_full h
  | false => exact single_full (List.forall_mem_cons.mpr ⟨hline, h⟩)

private theorem Single.concat_blank (h : Single lines) (hline : isBlankLine line = true) :
    Single (lines ++ [line]) := by
  rw [Single, runs_concat_blank hline, paragraph_concat_blank hline]
  exact h

end Lines

/-! ## Paragraphs of texts -/

private theorem isBlankLine_of_mem_splitOn {gap : List Char} (hgap : ∀ c ∈ gap, isBlank c = true) :
    ∀ l ∈ gap.splitOn '\n', isBlankLine l = true := by
  intro l hl
  rw [isBlankLine_iff]
  intro c hc
  have hjoin : ['\n'].intercalate (gap.splitOn '\n') = gap := List.intercalate_splitOn '\n'
  apply hgap
  rw [← hjoin]
  exact mem_intercalate hl hc

/-- Blank lines divide the paragraphs of a text into those before and those after them. -/
theorem paragraphs_append {gap : List Char} (hgap : ∀ c ∈ gap, isBlank c = true)
    (before after : List Char) :
    paragraphs (before ++ '\n' :: (gap ++ '\n' :: after)) =
      paragraphs before ++ paragraphs after := by
  obtain ⟨l, blanks, hlines⟩ := List.exists_cons_of_ne_nil (List.splitOn_ne_nil '\n' gap)
  have hblank := isBlankLine_of_mem_splitOn hgap
  rw [hlines, List.forall_mem_cons] at hblank
  rw [paragraphs, List.splitOn_append_cons_self, List.splitOn_append_cons_self, hlines,
    List.cons_append, runs_append_blank hblank.1, runs_blanks_append hblank.2, List.map_append]
  rfl

/-- There is no blank line between two line feeds of the text. -/
def Unspaced (cs : List Char) : Prop :=
  ∀ before gap after, cs = before ++ '\n' :: (gap ++ '\n' :: after) → ¬∀ c ∈ gap, isBlank c = true

theorem unspaced_of_notMem {cs : List Char} (h : '\n' ∉ cs) : Unspaced cs := by
  rintro before gap after rfl
  exact absurd (List.mem_append_right before List.mem_cons_self) h

private theorem Unspaced.single {cs : List Char} (h : Unspaced cs) : Single (cs.splitOn '\n') := by
  have hcs : ['\n'].intercalate (cs.splitOn '\n') = cs := List.intercalate_splitOn '\n'
  obtain ⟨first, rest, hlines⟩ := List.exists_cons_of_ne_nil (List.splitOn_ne_nil '\n' cs)
  rw [hlines] at hcs ⊢
  rcases List.eq_nil_or_concat' rest with rfl | ⟨inner, last, rfl⟩
  · exact single_cons first (by simp)
  · have hinner : ∀ l ∈ inner, isBlankLine l = false := by
      intro l hl
      obtain ⟨before, after, rfl⟩ := List.append_of_mem hl
      rw [Bool.eq_false_iff]
      intro hblank
      apply h (['\n'].intercalate (first :: before)) l (['\n'].intercalate (after ++ [last]))
      · have hsplit : first :: (before ++ l :: after ++ [last]) =
            (first :: before) ++ l :: (after ++ [last]) := by simp
        rw [← hcs, hsplit, intercalate_append (List.cons_ne_nil _ _) (List.cons_ne_nil _ _),
          intercalate_cons (List.concat_ne_nil _ _)]
      · exact isBlankLine_iff.mp hblank
    cases hlast : isBlankLine last with
    | true => exact (single_cons first hinner).concat_blank hlast
    | false =>
      apply single_cons first
      exact List.forall_mem_append.mpr ⟨hinner, List.forall_mem_singleton.mpr hlast⟩

theorem Unspaced.paragraphs_eq {cs : List Char} (h : Unspaced cs) :
    paragraphs cs = [stripChars cs].filter (!·.isEmpty) := by
  have hcs : paragraph (cs.splitOn '\n') = stripChars cs := by
    rw [paragraph, List.intercalate_splitOn]
  rw [← hcs]
  exact h.single

/-- What holds of texts without a blank line inside, and of texts that blank lines divide into such
of which it holds, holds of all texts. -/
theorem blankLine_induction {P : List Char → Prop} (unspaced : ∀ cs, Unspaced cs → P cs)
    (spaced : ∀ before gap after, (∀ c ∈ gap, isBlank c = true) → P before → P after →
      P (before ++ '\n' :: (gap ++ '\n' :: after))) (cs : List Char) : P cs := by
  induction hlength : cs.length using Nat.strong_induction_on generalizing cs with
  | _ n ih =>
    by_cases hcs : Unspaced cs
    · exact unspaced cs hcs
    · unfold Unspaced at hcs
      push Not at hcs
      obtain ⟨before, gap, after, rfl, hgap⟩ := hcs
      simp only [List.length_append, List.length_cons] at hlength
      exact spaced before gap after hgap (ih _ (by omega) before rfl) (ih _ (by omega) after rfl)

private theorem Unspaced.concat {cs : List Char} (h : Unspaced cs) {c : Char} (hc : c ≠ '\n') :
    Unspaced (cs ++ [c]) := by
  intro before gap after hsplit
  rcases List.eq_nil_or_concat' after with rfl | ⟨after, d, rfl⟩
  · have hlast : (cs ++ [c]).getLast? = some '\n' := by
      rw [hsplit, List.append_cons, ← List.append_assoc, List.getLast?_concat]
    rw [List.getLast?_concat] at hlast
    exact absurd (Option.some.inj hlast) hc
  · have hfront : cs ++ [c] = (before ++ '\n' :: (gap ++ '\n' :: after)) ++ [d] := by
      simpa using hsplit
    exact h before gap after (List.append_inj' hfront rfl).1

theorem paragraphs_concat_blank {c : Char} (hc : c ≠ '\n') (hblank : isBlank c = true)
    (cs : List Char) : paragraphs (cs ++ [c]) = paragraphs cs := by
  induction cs using blankLine_induction with
  | unspaced cs h => rw [(h.concat hc).paragraphs_eq, stripChars_concat hblank, h.paragraphs_eq]
  | spaced before gap after hgap _ hafter =>
    rw [List.append_assoc, List.cons_append, List.append_assoc, List.cons_append,
      paragraphs_append hgap, hafter, paragraphs_append hgap]

/-- A text that is not empty, without white space around it and without a blank line inside. -/
structure IsParagraph (text : String) : Prop where
  nonempty : text ≠ ""
  stripped : strip text = text
  unspaced : Unspaced text.toList

theorem IsParagraph.paragraphs_eq {text : String} (h : IsParagraph text) :
    paragraphs text.toList = [text.toList] := by
  have hstripped : stripChars text.toList = text.toList := by
    rw [← String.toList_ofList (l := stripChars text.toList)]
    exact congrArg String.toList h.stripped
  rw [h.unspaced.paragraphs_eq, hstripped]
  simp [h.nonempty]

end ClauseAudit.Text
