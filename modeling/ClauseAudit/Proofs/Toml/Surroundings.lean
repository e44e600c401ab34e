import ClauseAudit.Proofs.Text.LineEnds
import ClauseAudit.Proofs.Toml.Trailing

/-!
# What surrounds a document

The blanks around a document do not count, nor does the style of its line ends. A document begins
with a visible character unless it begins with a blank, so that a text behind an invisible character
is no document.
-/

namespace ClauseAudit.Toml

variable {cs : List Char} {d d' : Document}

/-! ## The first character -/

private theorem keyPart?_of_not_visible {c : Char} (hc : ¬Visible c) : keyPart? (c :: cs) =
    none := by
  have hsingle : c ≠ '\'' := by
    rintro rfl
    exact hc (by decide)
  have hdouble : c ≠ '"' := by
    rintro rfl
    exact hc (by decide)
  have hbare : isBareKey c = false := by
    cases hbare : isBareKey c with
    | true => exact absurd (visible_of_isBareKey hbare) hc
    | false => rfl
  rw [keyPart?_bare (fun _ heq => hsingle (List.cons.inj heq).1)
    fun _ heq => hdouble (List.cons.inj heq).1, List.takeWhile_cons_of_neg (by simp [hbare])]
  rfl

private theorem readStatement_of_not_visible {c : Char} (hc : ¬Visible c) :
    readStatement d (c :: cs) = .error .malformed := by
  have hbracket : c ≠ '[' := by
    rintro rfl
    exact hc (by decide)
  have hcomment : c ≠ '#' := by
    rintro rfl
    exact hc (by decide)
  rw [readStatement_pair (fun _ heq => hbracket (List.cons.inj heq).1)
    fun _ heq => hcomment (List.cons.inj heq).1, keyOfPair?, key?, keyPart?_of_not_visible hc]
  rfl

theorem readLines_of_not_visible {c : Char} (hspace : isLayout c = false) (hc : ¬Visible c)
    (fuel : Nat) : readLines d fuel (c :: cs) = .error .malformed := by
  cases fuel with
  | zero => rfl
  | succ fuel =>
    rw [isLayout, Bool.or_eq_false_iff, beq_eq_false_iff_ne] at hspace
    have hskip : skipSpace (c :: cs) = c :: cs :=
      List.dropWhile_cons_of_neg (by simp [hspace.1])
    unfold readLines
    rw [hskip]
    split
    · next heq => cases heq
    · next heq => exact absurd (List.cons.inj heq).1 hspace.2
    · rw [readStatement_of_not_visible hc]
      rfl

theorem front_of_readLines {c : Char} {fuel : Nat} (h : readLines d fuel (c :: cs) = .ok d') :
    isLayout c = true ∨ Visible c := by
  by_cases hc : Visible c
  · exact .inr hc
  cases hspace : isLayout c with
  | true => exact .inl rfl
  | false =>
    rw [readLines_of_not_visible hspace hc] at h
    cases h

/-! ## Blanks -/

private theorem readLines_fuel {fuel fuel' : Nat} (h : readLines d fuel cs = .ok d')
    (hfuel : cs.length < fuel') : readLines d fuel' cs = .ok d' := by
  induction fuel generalizing cs d fuel' with
  | zero => cases h
  | succ fuel ih =>
    obtain ⟨fuel', rfl⟩ : ∃ n, fuel' = n + 1 := Nat.exists_eq_add_one.mpr (by omega)
    have hlength := (passes_skipSpace cs).length_le
    unfold readLines at h ⊢
    split at h
    · exact h
    · next more hfeed =>
      rw [hfeed, List.length_cons] at hlength
      exact ih h (by omega)
    · obtain ⟨⟨d₁, r₁⟩, hstatement, h⟩ := bind_eq_ok_iff.mp h
      obtain ⟨r₂, hcomment, h⟩ := bind_eq_ok_iff.mp h
      have hlength' := ((passes_readStatement hstatement).trans ((passes_skipSpace r₁).trans
        (passes_skipComment? (orMalformed_eq_ok_iff.mp hcomment)))).length_le
      simp only [hstatement, hcomment, bind, Except.bind]
      split at h
      · exact h
      · next more =>
        rw [List.length_cons] at hlength'
        exact ih h (by omega)
      · cases h

theorem readLines_of_blank_cons {b : Char} (hb : Text.isBlank b = true) {fuel : Nat}
    (h : readLines d fuel (b :: cs) = .ok d') : readLines d (cs.length + 1) cs = .ok d' := by
  rcases front_of_readLines h with hspace | hvisible
  · cases fuel with
    | zero => cases h
    | succ fuel =>
      by_cases hfeed : b = '\n'
      · subst hfeed
        have hrest : readLines d fuel cs = .ok d' := h
        exact readLines_fuel hrest (Nat.lt_succ_self _)
      · rw [isLayout, beq_eq_false_iff_ne.mpr hfeed, Bool.or_false] at hspace
        have hskip : skipSpace (b :: cs) = skipSpace cs := List.dropWhile_cons_of_pos hspace
        have hrest : readLines d (fuel + 1) cs = .ok d' := by
          unfold readLines at h ⊢
          rwa [hskip] at h
        exact readLines_fuel hrest (Nat.lt_succ_self _)
  · rw [hvisible.isBlank_eq] at hb
    cases hb

private theorem readLines_stripLeft (h : readLines d (cs.length + 1) cs = .ok d') :
    readLines d ((Text.stripLeft cs).length + 1) (Text.stripLeft cs) = .ok d' := by
  induction cs with
  | nil => exact h
  | cons c cs ih =>
    rw [Text.stripLeft, List.dropWhile_cons]
    split
    · next hblank => exact ih (readLines_of_blank_cons hblank h)
    · exact h

private theorem readLines_stripRight (h : readLines d (cs.length + 1) cs = .ok d') :
    readLines d ((Text.stripRight cs).length + 1) (Text.stripRight cs) = .ok d' := by
  induction cs using List.reverseRecOn with
  | nil => exact h
  | append_singleton cs b ih =>
    rw [Text.stripRight, List.reverse_concat, Text.stripLeft, List.dropWhile_cons]
    split
    · next hblank => exact ih (readLines_trims hblank (.blank cs) (Nat.lt_succ_self _) h)
    · rwa [← List.reverse_concat, List.reverse_reverse]

/-! ## Line ends -/

theorem joinReturns_cons {c : Char} (hc : c ≠ '\r') (cs : List Char) :
    joinReturns (c :: cs) = c :: joinReturns cs := by
  rw [joinReturns]
  exact fun _ heq => absurd heq hc

private theorem joinReturns_of_notMem (h : '\r' ∉ cs) : joinReturns cs = cs := by
  fun_induction joinReturns cs with
  | case1 rest ih => simp at h
  | case2 c rest hne ih => rw [ih (List.not_mem_of_not_mem_cons h)]
  | case3 => rfl

private theorem unifyLineEnds_of_notMem (h : '\r' ∉ joinReturns cs) :
    Text.unifyLineEnds cs = joinReturns cs := by
  fun_induction joinReturns cs with
  | case1 rest ih => rw [Text.unifyLineEnds, ih (List.not_mem_of_not_mem_cons h)]
  | case2 c rest hne ih =>
    rw [List.mem_cons, not_or] at h
    rw [Text.unifyLineEnds_cons (Ne.symm h.1), ih h.2]
  | case3 => rfl

theorem exists_readLines_of_read {text : String} {fields : Fields} (h : read text = .ok fields) :
    ∃ d, readLines {} ((joinReturns text.toList).length + 1) (joinReturns text.toList) = .ok d ∧
      d.fields = fields := by
  rw [read] at h
  cases hlines : readLines {} ((joinReturns text.toList).length + 1) (joinReturns text.toList) with
  | error fault =>
    rw [hlines] at h
    cases h
  | ok d =>
    rw [hlines] at h
    exact ⟨d, rfl, Except.ok.inj h⟩

/-- A document is read alike without the blanks around it and with line feeds at all line ends. -/
theorem read_strip {text : String} {fields : Fields} (h : read text = .ok fields) :
    read (Text.strip (Text.withLineFeeds text)) = .ok fields := by
  obtain ⟨d, hlines, rfl⟩ := exists_readLines_of_read h
  have hreturn := return_notMem_of_readLines hlines
  obtain ⟨front, back, _, _, hsplit⟩ := Text.exists_eq_append_stripChars (joinReturns text.toList)
  have hstripped : '\r' ∉ Text.stripChars (joinReturns text.toList) := by
    intro hmem
    rw [hsplit] at hreturn
    exact hreturn (List.mem_append_left _ (List.mem_append_right _ hmem))
  have hlines' := readLines_stripRight (readLines_stripLeft hlines)
  rw [read, Text.toList_strip, Text.withLineFeeds, String.toList_ofList,
    unifyLineEnds_of_notMem hreturn, joinReturns_of_notMem hstripped]
  exact congrArg (Except.map (·.fields)) hlines'

end ClauseAudit.Toml
