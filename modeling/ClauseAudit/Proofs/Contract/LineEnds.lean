import ClauseAudit.Proofs.Contract.Segmentation
import ClauseAudit.Proofs.Contract.Typing
import ClauseAudit.Proofs.Text.LineEnds
import Mathlib.Data.List.Find

/-!
# Clauses and the style of line ends

A contract may end its lines with line feeds alone or with carriage returns before them. The returns
join no paragraphs and break none, because they are blank and stand at the ends of lines. They
make no keyword and destroy none, because no keyword has a line break in it.
-/

namespace ClauseAudit.Text

private theorem Unspaced.returnBeforeFeed {cs : List Char} (h : Unspaced cs) :
    Unspaced (returnBeforeFeed cs) := by
  intro before gap after hsplit hgap
  obtain ⟨b, rest, hcs, _, hrest⟩ := exists_of_returnBeforeFeed_eq hsplit
  obtain ⟨g, a, rfl, rfl, _⟩ := exists_of_returnBeforeFeed_eq hrest.symm
  exact h b g a hcs fun c hc => hgap c (List.mem_append_left _ (subset_returnBeforeFeed g hc))

private theorem paragraphs_returnBeforeFeed (cs : List Char) :
    paragraphs (returnBeforeFeed cs) = (paragraphs cs).map returnBeforeFeed := by
  induction cs using blankLine_induction with
  | unspaced cs h =>
    rw [h.returnBeforeFeed.paragraphs_eq, h.paragraphs_eq, stripChars_returnBeforeFeed]
    cases hcs : stripChars cs with
    | nil => rfl
    | cons c rest =>
      have hne : (returnBeforeFeed (c :: rest)).isEmpty = false := by
        by_cases hc : c = '\n' <;> simp [returnBeforeFeed, hc]
      simp [hne]
  | spaced before gap after hgap hbefore hafter =>
    have hreturn : isBlank '\r' = true := by decide
    have hblank : ∀ c ∈ returnBeforeFeed gap ++ ['\r'], isBlank c = true :=
      List.forall_mem_append.mpr
        ⟨isBlank_of_mem_returnBeforeFeed hgap, List.forall_mem_singleton.mpr hreturn⟩
    have hsplit : returnBeforeFeed (before ++ '\n' :: (gap ++ '\n' :: after)) =
        (returnBeforeFeed before ++ ['\r']) ++
          '\n' :: ((returnBeforeFeed gap ++ ['\r']) ++ '\n' :: returnBeforeFeed after) := by
      simp [returnBeforeFeed_append, returnBeforeFeed_feed]
    rw [hsplit, paragraphs_append hblank, paragraphs_concat_blank (by decide) hreturn, hbefore,
      hafter, paragraphs_append hgap, List.map_append]

/-- Returns before line feeds go along with lower case, up to the form of the sigmas. -/
theorem alike_lowerWithin_returnBeforeFeed (cs before after before' after' : List Char) :
    List.Forall₂ Alike (lowerWithin before (returnBeforeFeed cs) after)
      (returnBeforeFeed (lowerWithin before' cs after')) := by
  induction cs generalizing before before' with
  | nil => exact .nil
  | cons c rest ih =>
    by_cases hc : c = '\n'
    · rw [hc]
      exact .cons (.inl rfl) (.cons (.inl rfl) (ih _ _))
    · rw [returnBeforeFeed_cons hc, lowerWithin, lowerWithin, returnBeforeFeed_append,
        returnBeforeFeed_of_notMem (newline_notMem_lowerBetween hc _ _)]
      exact List.rel_append (alike_lowerBetween c _ _ _ _) (ih _ _)

end ClauseAudit.Text

namespace ClauseAudit.Clause

private theorem keywords_without_breaks : ∀ f ∈ families, ∀ keyword ∈ f.2,
    '\n' ∉ keyword.toList ∧ '\r' ∉ keyword.toList := by
  decide

private theorem mentions_withReturns {f : String × List String} (hf : f ∈ families) (t : String) :
    Mentions (Text.withReturns t) f ↔ Mentions t f := by
  refine exists_congr fun keyword => and_congr_right fun hkeyword => ?_
  obtain ⟨hsmall, hfinal⟩ := keywords_without_sigma f hf keyword hkeyword
  obtain ⟨hfeed, hreturn⟩ := keywords_without_breaks f hf keyword hkeyword
  rw [Text.toList_lower, Text.toList_lower, Text.withReturns, String.toList_ofList,
    Text.infix_iff_of_alike (Text.alike_lowerWithin_returnBeforeFeed _ _ _ _ _) hsmall hfinal,
    Text.infix_returnBeforeFeed_iff hfeed hreturn]

private theorem infer_withReturns (t : String) : infer (Text.withReturns t) = infer t := by
  have hfind : families.find? (mentions (Text.withReturns t)) = families.find? (mentions t) := by
    apply List.find?_congr
    intro f hf
    rw [Bool.eq_iff_iff, mentions_iff, mentions_iff, mentions_withReturns hf]
  rw [infer_eq, infer_eq, firstType, firstType, hfind]

private theorem number_map_withReturns (k : Nat) (texts : List String) :
    number k (texts.map Text.withReturns) =
      (number k texts).map fun c => { c with text := Text.withReturns c.text } := by
  induction texts generalizing k with
  | nil => rfl
  | cons text rest ih => simp [number, infer_withReturns, ih]

/-- The clauses of a contract do not depend on the style of its line ends: with returns before its
line feeds it has the same clauses, and their texts have these returns. -/
theorem segment_withReturns (contract : String) : segment (Text.withReturns contract) =
    (segment contract).map fun c => { c with text := Text.withReturns c.text } := by
  have hblocks : blocks (Text.withReturns contract) =
      (blocks contract).map Text.withReturns := by
    rw [blocks_eq_paragraphs, blocks_eq_paragraphs, Text.withReturns, String.toList_ofList,
      Text.paragraphs_returnBeforeFeed, List.map_map, List.map_map]
    simp [Text.withReturns, Function.comp_def]
  rw [segment, hblocks, number_map_withReturns, segment]

end ClauseAudit.Clause
