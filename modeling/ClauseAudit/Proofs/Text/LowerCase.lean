import ClauseAudit.Proofs.Aligned
import ClauseAudit.Proofs.Text.Case
import Mathlib.Data.List.Infix

/-!
# Lower case in context

A text is converted to lower case character by character, except that a capital sigma looks at its
neighbours. What a part of a text is converted to therefore depends on what is around it, but only
in the form of the sigmas: words without a sigma are found in it or not, whatever is around.

For single characters, the list of all code points with a given lower case leaves out none.
-/

namespace ClauseAudit.Text

/-! ## Texts -/

/-- The lower case of a part of a text, with what is before it, from the nearest, and after it. -/
def lowerWithin (before : List Char) : List Char → List Char → List Char
  | [], _ => []
  | c :: rest, after =>
    lowerBetween before c (rest ++ after) ++ lowerWithin (c :: before) rest after

private theorem lowerFrom_eq (before done cs : List Char) :
    lowerFrom before done cs = done.reverse ++ lowerWithin before cs [] := by
  induction cs generalizing before done with
  | nil => simp [lowerFrom, lowerWithin]
  | cons c rest ih => simp [lowerFrom, lowerWithin, ih]

theorem toList_lower (s : String) : (lower s).toList = lowerWithin [] s.toList [] := by
  rw [lower, String.toList_ofList, lowerFrom_eq, List.reverse_nil, List.nil_append]

theorem lowerWithin_append (before xs ys after : List Char) :
    lowerWithin before (xs ++ ys) after =
      lowerWithin before xs (ys ++ after) ++ lowerWithin (xs.reverse ++ before) ys after := by
  induction xs generalizing before with
  | nil => rfl
  | cons x xs ih => simp [lowerWithin, ih]

/-- Both characters are forms of the small sigma, or they are the same. -/
def Alike (c d : Char) : Prop :=
  c = d ∨ c ∈ [smallSigma, finalSigma] ∧ d ∈ [smallSigma, finalSigma]

theorem alike_lowerBetween (c : Char) (before after before' after' : List Char) :
    List.Forall₂ Alike (lowerBetween before c after) (lowerBetween before' c after') := by
  have hform : ∀ b : Bool, (if b then finalSigma else smallSigma) ∈ [smallSigma, finalSigma] := by
    simp
  rw [lowerBetween, lowerBetween]
  split
  · exact .cons (.inr ⟨hform _, hform _⟩) .nil
  · exact List.forall₂_same.mpr fun c _ => .inl rfl

/-- The neighbours of a part of a text decide the form of its sigmas and nothing else. -/
theorem alike_lowerWithin (cs before after before' after' : List Char) :
    List.Forall₂ Alike (lowerWithin before cs after) (lowerWithin before' cs after') := by
  induction cs generalizing before before' with
  | nil => exact .nil
  | cons c rest ih => exact List.rel_append (alike_lowerBetween c _ _ _ _) (ih _ _)

private theorem eq_of_alike {w v : List Char} (h : List.Forall₂ Alike w v) (hsmall : smallSigma ∉ w)
    (hfinal : finalSigma ∉ w) : w = v := by
  induction h with
  | nil => rfl
  | @cons c d w v hcd _ ih =>
    rw [List.mem_cons, not_or] at hsmall hfinal
    rw [ih hsmall.2 hfinal.2]
    rcases hcd with rfl | ⟨hc, _⟩
    · rfl
    · simp only [List.mem_cons, List.not_mem_nil, or_false] at hc
      rcases hc with rfl | rfl
      · exact absurd rfl hsmall.1
      · exact absurd rfl hfinal.1

private theorem infix_of_alike {w xs ys : List Char} (h : List.Forall₂ Alike xs ys)
    (hsmall : smallSigma ∉ w) (hfinal : finalSigma ∉ w) (hw : w <:+: xs) : w <:+: ys := by
  obtain ⟨u, v, rfl⟩ := hw
  obtain ⟨_, v', rfl, huw, _⟩ := forall₂_append_iff.mp h
  obtain ⟨u', w', rfl, _, hww'⟩ := forall₂_append_iff.mp huw
  rw [← eq_of_alike hww' hsmall hfinal]
  exact ⟨u', v', rfl⟩

theorem Alike.symm {c d : Char} (h : Alike c d) : Alike d c := by
  rcases h with h | h
  · exact .inl h.symm
  · exact .inr h.symm

theorem infix_iff_of_alike {w xs ys : List Char} (h : List.Forall₂ Alike xs ys)
    (hsmall : smallSigma ∉ w) (hfinal : finalSigma ∉ w) : w <:+: xs ↔ w <:+: ys :=
  ⟨infix_of_alike h hsmall hfinal,
    infix_of_alike (h.imp fun _ _ => Alike.symm).flip hsmall hfinal⟩

/-- Lower case of a text that continues on both sides has every word without a sigma that the lower
case of the text itself has. -/
theorem infix_lower_append {w : List Char} (hsmall : smallSigma ∉ w) (hfinal : finalSigma ∉ w)
    (a t b : String) (hw : w <:+: (lower t).toList) : w <:+: (lower (a ++ t ++ b)).toList := by
  rw [toList_lower] at hw
  have hmiddle := infix_of_alike
    (alike_lowerWithin t.toList [] [] a.toList.reverse b.toList) hsmall hfinal hw
  rw [toList_lower, String.toList_append, String.toList_append, lowerWithin_append,
    lowerWithin_append]
  simp only [List.append_nil]
  exact hmiddle.trans (List.infix_append _ _ _)

/-! ## Code points -/

private theorem isScalar_toNat (c : Char) : isScalar c.toNat = true := by
  have hvalid : c.toNat < 0xD800 ∨ (0xDFFF < c.toNat ∧ c.toNat < 0x110000) := c.valid
  simpa [isScalar] using hvalid

theorem toNat_ofNat_of_isScalar {n : Nat} (h : isScalar n = true) : (Char.ofNat n).toNat = n := by
  have hvalid : n.isValidChar := by simpa [isScalar] using h
  exact toNat_ofNat_of_isValidChar hvalid

private theorem lowerCode_toNat (c : Char) : lowerCode c.toNat = (lowerHead c).toNat := by
  rw [lowerCode, if_pos (isScalar_toNat c), Char.ofNat_toNat]

private theorem CaseRun.preimage?_of_imageOf? {r : CaseRun} {n m : Nat}
    (h : r.imageOf? n = some m) : r.preimage? m = some n := by
  rw [imageOf?] at h
  split at h
  · next hn =>
    obtain ⟨hfirst, hlast, hmod⟩ := hn
    have hm : m = r.image + (n - r.first) := (Option.some.inj h).symm
    have hdistance : m - r.image = n - r.first := by omega
    rw [preimage?, hdistance, if_pos ⟨by omega, by omega, hmod⟩]
    congr 1
    omega
  · cases h

private theorem lowerRuns_isScalar : (lowerRuns.all fun r =>
    Nat.blt (r.image + (r.last - r.first)) 0xD800 ||
    (Nat.blt 0xDFFF r.image && Nat.blt (r.image + (r.last - r.first)) 0x110000)) = true := by
  decide +kernel

private theorem lowerExpansions_isScalar :
    ∀ e ∈ lowerExpansions, ∃ m, e.2.head? = some m ∧ isScalar m = true := by
  decide

private theorem isScalar_of_imageOf? {r : CaseRun} (hr : r ∈ lowerRuns) {n m : Nat}
    (h : r.imageOf? n = some m) : isScalar m = true := by
  have hm := CaseRun.covers_range_of_imageOf? h
  have hfirst : r.image ≤ m := hm.1
  have hlast : m ≤ r.image + (r.last - r.first) := hm.2.1
  have htable := List.all_eq_true.mp lowerRuns_isScalar r hr
  simp only [Bool.or_eq_true, Bool.and_eq_true, Nat.blt_eq] at htable
  simp only [isScalar, Bool.or_eq_true, Bool.and_eq_true, decide_eq_true_eq]
  omega

/-- A character stands for itself in lower case, or one of the tables has it. -/
inductive LowersBy (c : Char) : Prop
  | self (h : lowerHead c = c)
  | run {r : CaseRun} {m : Nat} (hr : r ∈ lowerRuns) (h : r.imageOf? c.toNat = some m)
      (hm : (lowerHead c).toNat = m)
  | expansion {e : Nat × List Nat} (he : e ∈ lowerExpansions) (hc : e.1 = c.toNat)
      (h : e.2.head? = some (lowerHead c).toNat)

private theorem lowersBy (c : Char) : LowersBy c := by
  by_cases hascii : c.val < 0x80
  · by_cases hletter : ('A' ≤ c && c ≤ 'Z') = true
    · -- the first run has the capital letters of ASCII too
      have hhead : lowerHead c = Char.ofNat (c.toNat + 32) := by
        simp [lowerHead, lowerChars, hascii, hletter]
      simp only [Bool.and_eq_true, decide_eq_true_eq] at hletter
      have hfirst : 65 ≤ c.toNat := hletter.1
      have hlast : c.toNat ≤ 90 := hletter.2
      have himage : (CaseRun.mk 0x41 0x5A 1 0x61).imageOf? c.toNat = some (c.toNat + 32) := by
        rw [CaseRun.imageOf?, if_pos ⟨hfirst, hlast, Nat.mod_one _⟩]
        show some (97 + (c.toNat - 65)) = some (c.toNat + 32)
        congr 1
        omega
      have hmem : CaseRun.mk 0x41 0x5A 1 0x61 ∈ lowerRuns := List.mem_cons_self
      refine .run hmem himage ?_
      rw [hhead, toNat_ofNat_of_isScalar (isScalar_of_imageOf? hmem himage)]
    · exact .self (by simp [lowerHead, lowerChars, hascii, hletter])
  · cases hlookup : lowerExpansions.lookup c.toNat with
    | some image =>
      have hmem := mem_of_lookup_eq_some hlookup
      obtain ⟨m, hm, hscalar⟩ := lowerExpansions_isScalar _ hmem
      have hhead : lowerHead c = Char.ofNat m := by
        obtain ⟨rest, hrest⟩ := List.head?_eq_some_iff.mp hm
        have himage : image = m :: rest := hrest
        simp [lowerHead, lowerChars, hascii, hlookup, himage]
      refine .expansion hmem rfl ?_
      rw [hhead, toNat_ofNat_of_isScalar hscalar]
      exact hm
    | none =>
      cases hruns : lowerRuns.findSome? (·.imageOf? c.toNat) with
      | none => exact .self (by simp [lowerHead, lowerChars, hascii, hlookup, hruns])
      | some m =>
        have hhead : lowerHead c = Char.ofNat m := by
          simp [lowerHead, lowerChars, hascii, hlookup, hruns]
        obtain ⟨r, hr, himage⟩ := List.exists_of_findSome?_eq_some hruns
        refine .run hr himage ?_
        rw [hhead, toNat_ofNat_of_isScalar (isScalar_of_imageOf? hr himage)]

theorem mem_lowerPreimages (c : Char) : c.toNat ∈ lowerPreimages (lowerCode c.toNat) := by
  rw [lowerPreimages, List.mem_append, List.mem_append, lowerCode_toNat]
  cases lowersBy c with
  | self h =>
    have hself : lowerCode c.toNat = c.toNat := by rw [lowerCode_toNat, h]
    refine .inl (.inl ?_)
    rw [h, if_pos hself]
    exact List.mem_singleton_self _
  | run hr himage hm =>
    rw [hm]
    exact .inl (.inr (List.mem_filterMap.mpr ⟨_, hr, CaseRun.preimage?_of_imageOf? himage⟩))
  | @expansion e he hc h =>
    refine .inr (List.mem_map.mpr ⟨e, List.mem_filter.mpr ⟨he, ?_⟩, hc⟩)
    rw [h]
    exact beq_self_eq_true _

theorem mem_lowerChars {c d : Char} (h : d ∈ lowerChars c) :
    d = lowerHead c ∨ ∃ e ∈ lowerExpansions, ∃ n ∈ e.2, Char.ofNat n = d := by
  rw [lowerHead]
  unfold lowerChars at h ⊢
  split at h
  · next hascii =>
    rw [if_pos hascii]
    exact .inl (List.mem_singleton.mp h)
  · next hascii =>
    rw [if_neg hascii]
    split at h
    · next image hlookup =>
      obtain ⟨n, hn, hd⟩ := List.mem_map.mp h
      exact .inr ⟨_, mem_of_lookup_eq_some hlookup, n, hn, hd⟩
    · exact .inl (List.mem_singleton.mp h)

private theorem eq_newline_of_mem_lowerChars {c : Char} (h : '\n' ∈ lowerChars c) : c = '\n' := by
  have hexpansions : ∀ e ∈ lowerExpansions, ∀ n ∈ e.2, Char.ofNat n ≠ '\n' := by decide +kernel
  have hpreimages : lowerPreimages '\n'.toNat = ['\n'.toNat] := by decide +kernel
  rcases mem_lowerChars h with hhead | ⟨e, he, n, hn, hnewline⟩
  · have hcode := mem_lowerPreimages c
    rw [lowerCode_toNat, ← hhead, hpreimages, List.mem_singleton] at hcode
    exact Char.toNat_inj.mp hcode
  · exact absurd hnewline (hexpansions e he n hn)

theorem newline_notMem_lowerBetween {c : Char} (hc : c ≠ '\n') (before after : List Char) :
    '\n' ∉ lowerBetween before c after := by
  rw [lowerBetween]
  split
  · split <;> decide
  · exact fun h => hc (eq_newline_of_mem_lowerChars h)

end ClauseAudit.Text
