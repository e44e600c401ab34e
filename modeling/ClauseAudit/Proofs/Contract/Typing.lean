import ClauseAudit.Contract.Clause
import ClauseAudit.Proofs.Regex.Words
import ClauseAudit.Proofs.Text.Lines
import ClauseAudit.Regex.Reader

/-!
# Types of growing texts

A clause has the type of the first family of keywords that it mentions. Text that is added before
or after a clause can make it mention more families, but not fewer, although lower case depends on
the neighbours. So the type of a growing clause only moves towards the front of the table.
-/

namespace ClauseAudit.Clause

/-! ## Tables of types -/

section Table

variable {α : Type} {p : α × List String → Bool} {fs : List (α × List String)} {unknown : α}

/-- The type that a table gives: that of the first family that passes. -/
def firstType (p : α × List String → Bool) (fs : List (α × List String)) (unknown : α) : α :=
  ((fs.find? p).map (·.1)).getD unknown

private theorem firstType_mem : firstType p fs unknown ∈ fs.map (·.1) ++ [unknown] := by
  rw [firstType]
  cases h : fs.find? p with
  | none => simp
  | some f =>
    exact List.mem_append_left _ (List.mem_map.mpr ⟨f, List.mem_of_find?_eq_some h, rfl⟩)

private theorem firstType_cons_of_pos {f : α × List String} (h : p f = true) :
    firstType p (f :: fs) unknown = f.1 := by
  rw [firstType, List.find?_cons_of_pos h]
  rfl

private theorem firstType_cons_of_neg {f : α × List String} (h : ¬p f = true) :
    firstType p (f :: fs) unknown = firstType p fs unknown := by
  rw [firstType, List.find?_cons_of_neg h, firstType]

private theorem idxOf_firstType [BEq α] [LawfulBEq α] (h : (fs.map (·.1) ++ [unknown]).Nodup) :
    (fs.map (·.1) ++ [unknown]).idxOf (firstType p fs unknown) = fs.findIdx p := by
  induction fs with
  | nil => simp [firstType]
  | cons f fs ih =>
    rw [List.map_cons, List.cons_append, List.nodup_cons] at h
    by_cases hf : p f = true
    · rw [firstType_cons_of_pos hf, List.findIdx_cons, hf]
      exact List.idxOf_cons_self
    · have hne : f.1 ≠ firstType p fs unknown := by
        intro heq
        apply h.1
        rw [heq]
        exact firstType_mem
      rw [firstType_cons_of_neg hf, List.map_cons, List.cons_append, List.idxOf_cons_ne _ hne,
        ih h.2, List.findIdx_cons, Bool.eq_false_iff.mpr hf]
      rfl

private theorem firstType_eq_unknown_iff (h : (fs.map (·.1) ++ [unknown]).Nodup) :
    firstType p fs unknown = unknown ↔ ∀ f ∈ fs, ¬p f = true := by
  induction fs with
  | nil => simp [firstType]
  | cons f fs ih =>
    rw [List.map_cons, List.cons_append, List.nodup_cons] at h
    rw [List.forall_mem_cons]
    by_cases hf : p f = true
    · rw [firstType_cons_of_pos hf]
      refine iff_of_false ?_ fun hnot => hnot.1 hf
      rintro rfl
      exact h.1 (List.mem_append_right _ (List.mem_singleton_self _))
    · rw [firstType_cons_of_neg hf, ih h.2, and_iff_right hf]

private theorem firstType_eq_iff {before after : List (α × List String)} {f : α × List String}
    (h : ((before ++ f :: after).map (·.1) ++ [unknown]).Nodup) :
    firstType p (before ++ f :: after) unknown = f.1 ↔
      p f = true ∧ ∀ g ∈ before, ¬p g = true := by
  induction before with
  | nil =>
    rw [List.nil_append, List.map_cons, List.cons_append, List.nodup_cons] at h
    simp only [List.nil_append, List.not_mem_nil, false_implies, implies_true, and_true]
    by_cases hf : p f = true
    · exact iff_of_true (firstType_cons_of_pos hf) hf
    · rw [firstType_cons_of_neg hf]
      refine iff_of_false (fun heq => h.1 ?_) hf
      rw [← heq]
      exact firstType_mem
  | cons g before ih =>
    rw [List.cons_append, List.map_cons, List.cons_append, List.nodup_cons] at h
    rw [List.cons_append, List.forall_mem_cons]
    by_cases hg : p g = true
    · rw [firstType_cons_of_pos hg]
      refine iff_of_false (fun heq => h.1 ?_) fun hnot => hnot.2.1 hg
      rw [heq]
      simp
    · rw [firstType_cons_of_neg hg, ih h.2, and_iff_right hg]

end Table

/-! ## Keywords -/

/-- The text has a keyword of the family, whatever its case. -/
def Mentions (t : String) (f : String × List String) : Prop :=
  ∃ keyword ∈ f.2, keyword.toList <:+: (Text.lower t).toList

def mentions (t : String) (f : String × List String) : Bool :=
  f.2.any fun keyword => Text.hasInfix keyword.toList (Text.lower t).toList

theorem mentions_iff {t : String} {f : String × List String} :
    mentions t f = true ↔ Mentions t f := by
  simp only [mentions, Mentions, List.any_eq_true, Text.hasInfix_iff]

theorem keywords_without_sigma : ∀ f ∈ families, ∀ keyword ∈ f.2,
    Text.smallSigma ∉ keyword.toList ∧ Text.finalSigma ∉ keyword.toList := by
  decide

theorem Mentions.append {t : String} {f : String × List String} (hf : f ∈ families)
    (h : Mentions t f) (a b : String) : Mentions (a ++ t ++ b) f := by
  obtain ⟨keyword, hkeyword, hinfix⟩ := h
  obtain ⟨hsmall, hfinal⟩ := keywords_without_sigma f hf keyword hkeyword
  exact ⟨keyword, hkeyword, Text.infix_lower_append hsmall hfinal a t b hinfix⟩

/-- The keywords of a family are the words of one pattern. -/
theorem families_words : ∀ f ∈ families,
    ∃ p ∈ (Regex.Pattern.parse ("|".intercalate f.2) {}).toOption,
      p.words? = some (f.2.map String.toList) := by
  decide +kernel

private theorem exists_pattern {f : String × List String} (hf : f ∈ families) :
    ∃ p, Regex.Pattern.parse ("|".intercalate f.2) {} = .ok p ∧
      ∀ t, p.search (Text.lower t) = true ↔ Mentions t f := by
  obtain ⟨p, hp, hwords⟩ := families_words f hf
  refine ⟨p, ?_, fun t => ?_⟩
  · cases hparse : Regex.Pattern.parse ("|".intercalate f.2) {} with
    | error fault =>
      rw [hparse] at hp
      cases hp
    | ok q =>
      rw [hparse] at hp
      rw [Option.some.inj hp]
  · rw [Regex.Pattern.search_eq_true_iff hwords, Mentions]
    simp

/-! ## Types of clauses -/

/-- The place of the type of a text in the table; the unknown type comes last. -/
def rank (t : String) : Nat := (families.map (·.1) ++ [unknownType]).idxOf (infer t)

private theorem types_nodup : (families.map (·.1) ++ [unknownType]).Nodup := by decide

theorem infer_eq (t : String) : infer t = firstType (mentions t) families unknownType := by
  have hfind : (families.find? fun f => f.2.any fun keyword =>
      Text.hasInfix keyword.toList (Text.lower t).toList) = families.find? (mentions t) := rfl
  rw [infer, firstType, hfind]
  cases families.find? (mentions t) <;> rfl

private theorem rank_eq (t : String) : rank t = families.findIdx (mentions t) := by
  rw [rank, infer_eq, idxOf_firstType types_nodup]

/-- The type of a text is that of the first family that the text mentions, as searches for the
patterns of the families find it. Text around it can only move it towards the front. -/
theorem type_moves_up (a t b : String) :
    rank (a ++ t ++ b) ≤ rank t ∧
    (∀ before f after, families = before ++ f :: after →
      (infer t = f.1 ↔ Mentions t f ∧ ∀ g ∈ before, ¬Mentions t g)) ∧
    (infer t = unknownType ↔ ∀ f ∈ families, ¬Mentions t f) ∧
    ∀ f ∈ families, ∃ p, Regex.Pattern.parse ("|".intercalate f.2) {} = .ok p ∧
      (p.search (Text.lower t) = true ↔ Mentions t f) := by
  refine ⟨?_, ?_, ?_, ?_⟩
  · rw [rank_eq, rank_eq]
    refine List.findIdx_le_findIdx fun f hf h => ?_
    exact mentions_iff.mpr ((mentions_iff.mp h).append hf a b)
  · intro before f after hfamilies
    have hnodup := types_nodup
    rw [hfamilies] at hnodup
    rw [infer_eq, hfamilies, firstType_eq_iff hnodup]
    simp only [mentions_iff]
  · rw [infer_eq, firstType_eq_unknown_iff types_nodup]
    simp only [mentions_iff]
  · intro f hf
    obtain ⟨p, hparse, hsearch⟩ := exists_pattern hf
    exact ⟨p, hparse, hsearch t⟩

/-- The last letter of the short text is a final sigma only as long as nothing follows. -/
theorem lengthened_text_moves_up :
    rank ("Late " ++ "fees ΟΔΟΣ" ++ "ΟΥ, with liability") ≤ rank "fees ΟΔΟΣ" ∧
      families = [("LIABILITY", ["liability", "limitation of liability"])] ++
        ("PAYMENT", ["payment", "fees", "invoice"]) :: families.drop 2 ∧
      infer "fees ΟΔΟΣ" = "PAYMENT" ∧
      infer ("Late " ++ "fees ΟΔΟΣ" ++ "ΟΥ, with liability") = "LIABILITY" := by
  obtain ⟨hrank, htypes, _⟩ := type_moves_up "Late " "fees ΟΔΟΣ" "ΟΥ, with liability"
  have hpayment : mentions "fees ΟΔΟΣ" ("PAYMENT", ["payment", "fees", "invoice"]) = true := by
    decide +kernel
  have hliability : ¬mentions "fees ΟΔΟΣ"
      ("LIABILITY", ["liability", "limitation of liability"]) = true := by
    decide +kernel
  have hfamilies : families = [("LIABILITY", ["liability", "limitation of liability"])] ++
      ("PAYMENT", ["payment", "fees", "invoice"]) :: families.drop 2 := rfl
  refine ⟨hrank, hfamilies, (htypes _ _ _ hfamilies).mpr ⟨mentions_iff.mp hpayment, ?_⟩,
    by decide +kernel⟩
  intro g hg
  rw [List.mem_singleton.mp hg, ← mentions_iff]
  exact hliability

end ClauseAudit.Clause
