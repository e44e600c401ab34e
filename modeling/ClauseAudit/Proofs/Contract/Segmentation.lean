import ClauseAudit.Contract.Clause
import ClauseAudit.Proofs.Text.Paragraphs

/-!
# The clauses of a contract are its paragraphs

Cutting a contract goes from one line feed to the next and looks at the white space that follows.
The block that is open has no blank line inside, whatever follows, so it is one paragraph at most;
the white space that it is cut at has a blank line.
-/

namespace ClauseAudit.Clause

private theorem eq_append_afterBreak {cs front tail : List Char}
    (hspace : cs.takeWhile Text.isBlank = front ++ '\n' :: tail) (htail : '\n' ∉ tail) :
    cs = front ++ '\n' :: afterBreak cs := by
  have hlast : (cs.takeWhile Text.isBlank).reverse.takeWhile (· != '\n') = tail.reverse := by
    have hpos : ∀ c ∈ tail.reverse, (c != '\n') = true := by
      intro c hc
      rw [bne_iff_ne]
      rintro rfl
      exact htail (List.mem_reverse.mp hc)
    rw [hspace, List.reverse_append, List.reverse_cons, List.append_assoc,
      List.takeWhile_append_of_pos hpos]
    simp
  have hcs : cs = front ++ '\n' :: (tail ++ cs.dropWhile Text.isBlank) := by
    conv_lhs => rw [← List.takeWhile_append_dropWhile (p := Text.isBlank) (l := cs), hspace]
    simp
  have hlength : (cs.takeWhile Text.isBlank).length - tail.reverse.length = front.length + 1 := by
    rw [hspace]
    simp
    omega
  have hafter : afterBreak cs = tail ++ cs.dropWhile Text.isBlank := by
    calc afterBreak cs
        = cs.drop (front.length + 1) := by rw [afterBreak, hlast, hlength]
      _ = (front ++ '\n' :: (tail ++ cs.dropWhile Text.isBlank)).drop (front.length + 1) :=
          congrArg (List.drop _) hcs
      _ = tail ++ cs.dropWhile Text.isBlank := by
          rw [List.append_cons]
          exact List.drop_left' (by simp)
  rw [hafter]
  exact hcs

private theorem exists_gap {cs : List Char} (h : '\n' ∈ cs.takeWhile Text.isBlank) :
    ∃ gap, (∀ c ∈ gap, Text.isBlank c = true) ∧ cs = gap ++ '\n' :: afterBreak cs := by
  obtain ⟨tail, front, hreverse, htail⟩ := List.eq_append_cons_of_mem (List.mem_reverse.mpr h)
  have hspace : cs.takeWhile Text.isBlank = front.reverse ++ '\n' :: tail.reverse := by
    rw [← List.reverse_reverse (cs.takeWhile Text.isBlank), hreverse]
    simp
  refine ⟨front.reverse, ?_, eq_append_afterBreak hspace (mt List.mem_reverse.mp htail)⟩
  intro c hc
  apply List.mem_takeWhile_imp (l := cs)
  rw [hspace]
  exact List.mem_append_left _ hc

/-- No line feed of the open block, which is given from its last character, begins a blank line. -/
def Settled (block cs : List Char) : Prop :=
  ∀ before after, block.reverse = before ++ '\n' :: after →
    '\n' ∉ (after ++ cs).takeWhile Text.isBlank

theorem settled_nil (cs : List Char) : Settled [] cs := by
  intro before after h
  simp at h

theorem Settled.cons {block rest : List Char} {c : Char} (h : Settled block (c :: rest))
    (hc : c = '\n' → '\n' ∉ rest.takeWhile Text.isBlank) : Settled (c :: block) rest := by
  intro before after hsplit
  rw [List.reverse_cons] at hsplit
  rcases List.eq_nil_or_concat' after with rfl | ⟨after, d, rfl⟩
  · obtain ⟨_, hlast⟩ := List.append_inj' hsplit rfl
    exact hc (List.cons.inj hlast).1
  · rw [← List.cons_append, ← List.append_assoc] at hsplit
    obtain ⟨hblock, hlast⟩ := List.append_inj' hsplit rfl
    obtain rfl := (List.cons.inj hlast).1
    rw [List.append_assoc]
    exact h before after hblock

private theorem Settled.unspaced {block cs : List Char} (h : Settled block cs) :
    Text.Unspaced block.reverse := by
  intro before gap after hsplit hgap
  apply h before (gap ++ '\n' :: after) hsplit
  rw [List.append_assoc, List.takeWhile_append_of_pos hgap]
  apply List.mem_append_right
  rw [List.cons_append, List.takeWhile_cons_of_pos Text.isBlank_newline]
  exact List.mem_cons_self

private theorem blocksFrom_eq_paragraphs {block cs : List Char} (h : Settled block cs) :
    ((blocksFrom block cs).map Text.stripChars).filter (!·.isEmpty) =
      Text.paragraphs (block.reverse ++ cs) := by
  fun_induction blocksFrom block cs with
  | case1 block =>
    rw [List.append_nil, h.unspaced.paragraphs_eq]
    rfl
  | case2 block c rest hcut ih =>
    simp only [Bool.and_eq_true, decide_eq_true_eq, List.contains_iff_mem] at hcut
    obtain ⟨rfl, hbreak⟩ := hcut
    obtain ⟨gap, hgap, hrest⟩ := exists_gap hbreak
    rw [List.map_cons, ← List.singleton_append, List.filter_append, ih (settled_nil _),
      ← h.unspaced.paragraphs_eq]
    conv_rhs => rw [hrest, Text.paragraphs_append hgap]
    rfl
  | case3 block c rest hcut ih =>
    have hnext : Settled (c :: block) rest := by
      apply h.cons
      rintro rfl hbreak
      exact hcut (by simpa using hbreak)
    rw [ih hnext, List.reverse_cons, List.append_assoc, List.singleton_append]

/-- The blocks of a contract are its paragraphs. -/
theorem blocks_eq_paragraphs (contract : String) :
    blocks contract = (Text.paragraphs contract.toList).map String.ofList := by
  have hkept (texts : List (List Char)) :
      (texts.filterMap fun block => if block.isEmpty then none else some (String.ofList block)) =
        (texts.filter (!·.isEmpty)).map String.ofList := by
    induction texts with
    | nil => rfl
    | cons block texts ih =>
      rw [List.filterMap_cons, List.filter_cons, ih]
      cases block.isEmpty <;> rfl
  rw [blocks, hkept, blocksFrom_eq_paragraphs (settled_nil _)]
  rfl

private theorem infix_of_mem_blocksFrom {block cs b : List Char} (h : b ∈ blocksFrom block cs) :
    b <:+: block.reverse ++ cs := by
  fun_induction blocksFrom block cs with
  | case1 block =>
    rw [List.mem_singleton] at h
    exact ⟨[], [], by rw [h]; rfl⟩
  | case2 block c rest _ ih =>
    rcases List.mem_cons.mp h with rfl | h
    · exact (List.prefix_append _ _).isInfix
    · have hrest : [].reverse ++ afterBreak rest <:+ block.reverse ++ c :: rest :=
        (List.drop_suffix _ rest).trans
          ((List.suffix_cons c rest).trans (List.suffix_append _ _))
      exact (ih h).trans hrest.isInfix
  | case3 block c rest _ ih =>
    rw [List.append_cons, ← List.reverse_cons]
    exact ih h

theorem infix_of_mem_blocks {block contract : String} (h : block ∈ blocks contract) :
    block.toList <:+: contract.toList := by
  obtain ⟨cs, hcs, hkept⟩ := List.mem_filterMap.mp h
  split at hkept
  · cases hkept
  · obtain ⟨b, hb, rfl⟩ := List.mem_map.mp hcs
    obtain ⟨front, back, _, _, hstrip⟩ := Text.exists_eq_append_stripChars b
    rw [← Option.some.inj hkept, String.toList_ofList]
    have hwithin : Text.stripChars b <:+: b := ⟨front, back, hstrip.symm⟩
    exact hwithin.trans (infix_of_mem_blocksFrom hb)

/-- Blank lines divide the blocks of a contract into those before and those after them. -/
theorem blocks_append {gap : String} (hgap : ∀ c ∈ gap.toList, Text.isBlank c = true)
    (before after : String) :
    blocks (before ++ "\n" ++ gap ++ "\n" ++ after) = blocks before ++ blocks after := by
  have hchars : (before ++ "\n" ++ gap ++ "\n" ++ after).toList =
      before.toList ++ '\n' :: (gap.toList ++ '\n' :: after.toList) := by simp
  rw [blocks_eq_paragraphs, blocks_eq_paragraphs, blocks_eq_paragraphs, hchars,
    Text.paragraphs_append hgap, List.map_append]

/-- The blocks stand in the text one after the other, with a blank line or more between them. -/
inductive Spaced : List String → String → Prop
  | nil : Spaced [] ""
  | single (block : String) : Spaced [block] block
  | cons (block gap : String) {text : String} {rest : List String} (hne : rest ≠ [])
      (hgap : ∀ c ∈ gap.toList, Text.isBlank c = true) (hrest : Spaced rest text) :
      Spaced (block :: rest) (block ++ "\n" ++ gap ++ "\n" ++ text)

theorem spaced_intercalate (texts : List String) : Spaced texts ("\n\n".intercalate texts) := by
  induction texts with
  | nil => exact .nil
  | cons block rest ih =>
    by_cases hrest : rest = []
    · rw [hrest]
      exact .single block
    · have hgap : "\n\n".intercalate (block :: rest) =
          block ++ "\n" ++ "" ++ "\n" ++ "\n\n".intercalate rest := by
        obtain ⟨b, rest, rfl⟩ := List.exists_cons_of_ne_nil hrest
        simp [← String.toList_inj, String.toList_intercalate]
      rw [hgap]
      exact .cons block "" hrest (by simp) ih

theorem Spaced.blocks_eq {texts : List String} {text : String} (h : Spaced texts text)
    (htexts : ∀ block ∈ texts, Text.IsParagraph block) : blocks text = texts := by
  have hsingle (block : String) (hblock : Text.IsParagraph block) : blocks block = [block] := by
    rw [blocks_eq_paragraphs, hblock.paragraphs_eq, List.map_singleton, String.ofList_toList]
  induction h with
  | nil => exact blocks_eq_paragraphs ""
  | single block => exact hsingle block (htexts block List.mem_cons_self)
  | cons block gap _ hgap _ ih =>
    obtain ⟨hblock, hrest⟩ := List.forall_mem_cons.mp htexts
    rw [blocks_append hgap, hsingle block hblock, ih hrest]
    rfl

private theorem number_eq_mapIdx (k : Nat) (texts : List String) :
    number k texts = texts.mapIdx fun i text =>
      { id := "clause-" ++ Text.decimal (k + i), clauseType := infer text, text } := by
  induction texts generalizing k with
  | nil => rfl
  | cons text rest ih =>
    rw [number, ih, List.mapIdx_cons]
    simp only [Nat.add_zero, Nat.add_assoc, Nat.add_comm 1]

theorem length_segment (contract : String) :
    (segment contract).length = (blocks contract).length := by
  rw [segment, number_eq_mapIdx, List.length_mapIdx]

/-- A contract has one clause for each of its paragraphs, in their order, numbered from one. -/
theorem segment_eq_paragraphs (contract : String) :
    segment contract = ((Text.paragraphs contract.toList).map String.ofList).mapIdx fun i text =>
      { id := "clause-" ++ Text.decimal (i + 1), clauseType := infer text, text } := by
  rw [segment, blocks_eq_paragraphs, number_eq_mapIdx]
  simp only [Nat.add_comm 1]

end ClauseAudit.Clause
