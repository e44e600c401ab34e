import ClauseAudit.Text.Case
import Mathlib.Data.List.Basic

/-!
# Upper case is final

Converting a text to upper case a second time changes nothing, also where one character has several
as its upper case. The tables are gone through once: what they lead to and what they change are two
sets of code points that do not meet.
-/

namespace ClauseAudit.Text

theorem mem_of_lookup_eq_some {α β : Type} [BEq α] [LawfulBEq α] {table : List (α × β)} {a : α}
    {b : β} (h : table.lookup a = some b) : (a, b) ∈ table := by
  obtain ⟨before, after, rfl, _⟩ := List.lookup_eq_some_iff.mp h
  exact List.mem_append_right _ List.mem_cons_self

namespace CaseRun

def Covers (r : CaseRun) (n : Nat) : Prop :=
  r.first ≤ n ∧ n ≤ r.last ∧ (n - r.first) % r.stride = 0

private theorem imageOf?_eq_none_iff (r : CaseRun) (n : Nat) : r.imageOf? n = none ↔
    ¬r.Covers n := by
  rw [imageOf?, Covers]
  split <;> simp_all

def range (r : CaseRun) : CaseRun :=
  { first := r.image, last := r.image + (r.last - r.first), stride := r.stride, image := r.image }

theorem covers_range_of_imageOf? {r : CaseRun} {n m : Nat} (h : r.imageOf? n = some m) :
    r.range.Covers m := by
  rw [imageOf?] at h
  split at h
  · next hn =>
    obtain ⟨hfirst, hlast, hmod⟩ := hn
    have hm : m = r.image + (n - r.first) := (Option.some.inj h).symm
    refine ⟨?_, ?_, ?_⟩
    · show r.image ≤ m
      omega
    · show m ≤ r.image + (r.last - r.first)
      omega
    · show (m - r.image) % r.stride = 0
      rw [hm, Nat.add_sub_cancel_left, hmod]
  · simp at h

def single (n : Nat) : CaseRun := { first := n, last := n, stride := 1, image := n }

private theorem covers_single (n : Nat) : (single n).Covers n :=
  ⟨Nat.le_refl n, Nat.le_refl n, Nat.mod_one _⟩

/-- All code points of the run have one parity. -/
def isEven (r : CaseRun) : Bool := r.first == r.last || r.stride % 2 == 0

/-- A sufficient test for runs without a common code point: one lies before the other, or they
interleave. -/
def isApart (r q : CaseRun) : Bool :=
  Nat.blt r.last q.first || Nat.blt q.last r.first ||
    (r.isEven && q.isEven && (r.first + q.first) % 2 == 1)

private theorem Covers.parity {r : CaseRun} {n : Nat} (h : r.Covers n) (heven : r.isEven = true) :
    n % 2 = r.first % 2 := by
  obtain ⟨hfirst, hlast, hmod⟩ := h
  simp only [isEven, Bool.or_eq_true, beq_iff_eq] at heven
  rcases heven with hsingle | hstride
  · have hn : n = r.first := by omega
    rw [hn]
  · have htwo : 2 ∣ n - r.first :=
      Nat.dvd_trans (Nat.dvd_of_mod_eq_zero hstride) (Nat.dvd_of_mod_eq_zero hmod)
    omega

private theorem Covers.not_covers {r q : CaseRun} {n : Nat} (h : r.Covers n)
    (hapart : r.isApart q = true) : ¬q.Covers n := by
  intro hq
  simp only [isApart, Bool.or_eq_true, Bool.and_eq_true, Nat.blt_eq, beq_iff_eq] at hapart
  rcases hapart with (hbefore | hafter) | ⟨⟨hr, hq'⟩, hodd⟩
  · have := h.2.1
    have := hq.1
    omega
  · have := h.1
    have := hq.2.1
    omega
  · have := h.parity hr
    have := hq.parity hq'
    omega

end CaseRun

def asciiLetters : CaseRun := { first := 0x61, last := 0x7A, stride := 1, image := 0x41 }

def upperChanges : List CaseRun :=
  asciiLetters :: upperRuns ++ upperExpansions.map fun e => .single e.1

def upperImages : List CaseRun :=
  (asciiLetters :: upperRuns).map CaseRun.range
    ++ upperExpansions.flatMap fun e => e.2.map .single

private theorem upperImages_apart :
    (upperImages.all fun r => upperChanges.all fun q => r.isApart q) = true := by
  decide +kernel

private theorem upperChars_of_not_covered {c : Char} (h : ∀ q ∈ upperChanges, ¬q.Covers c.toNat) :
    upperChars c = [c] := by
  rw [upperChars]
  split
  · have hc : ¬('a' ≤ c ∧ c ≤ 'z') := by
      intro hc
      apply h asciiLetters (by simp [upperChanges])
      exact ⟨hc.1, hc.2, Nat.mod_one _⟩
    simp [hc]
  · have hlookup : upperExpansions.lookup c.toNat = none := by
      rw [List.lookup_eq_none_iff]
      intro e he
      have hmem : CaseRun.single e.1 ∈ upperChanges :=
        List.mem_append_right _ (List.mem_map.mpr ⟨e, he, rfl⟩)
      rw [bne_iff_ne]
      intro heq
      apply h _ hmem
      rw [heq]
      exact CaseRun.covers_single e.1
    have hruns : upperRuns.findSome? (·.imageOf? c.toNat) = none := by
      rw [List.findSome?_eq_none_iff]
      intro r hr
      rw [CaseRun.imageOf?_eq_none_iff]
      exact h r (by simp [upperChanges, hr])
    rw [hlookup, hruns]
    rfl

theorem toNat_ofNat_of_isValidChar {n : Nat} (h : n.isValidChar) : (Char.ofNat n).toNat = n := by
  rw [Char.ofNat, dif_pos h]
  rfl

private theorem ofNat_of_not_isValidChar {n : Nat} (h : ¬n.isValidChar) : Char.ofNat n =
    Char.ofNat 0 := by
  rw [Char.ofNat, dif_neg h]
  rfl

private theorem upperChars_ofNat {n : Nat} (h : ∀ q ∈ upperChanges, ¬q.Covers n) :
    upperChars (Char.ofNat n) = [Char.ofNat n] := by
  by_cases hn : n.isValidChar
  · apply upperChars_of_not_covered
    rw [toNat_ofNat_of_isValidChar hn]
    exact h
  · rw [ofNat_of_not_isValidChar hn]
    rfl

private theorem upperChars_ofNat_of_image {n : Nat} {r : CaseRun} (hr : r ∈ upperImages)
    (hn : r.Covers n) : upperChars (Char.ofNat n) = [Char.ofNat n] := by
  apply upperChars_ofNat
  intro q hq
  have hall := List.all_eq_true.mp upperImages_apart r hr
  exact CaseRun.Covers.not_covers hn (List.all_eq_true.mp hall q hq)

/-- A character is its own upper case, or the tables lead to its upper case. -/
theorem upperChars_eq_or_image (c : Char) : upperChars c = [c] ∨
    ∀ d ∈ upperChars c, ∃ r ∈ upperImages, ∃ n, r.Covers n ∧ d = Char.ofNat n := by
  have hrun : ∀ r ∈ asciiLetters :: upperRuns, r.range ∈ upperImages := fun r hr =>
    List.mem_append_left _ (List.mem_map.mpr ⟨r, hr, rfl⟩)
  rw [upperChars]
  split
  · split
    · next hletter =>
      simp only [Bool.and_eq_true, decide_eq_true_eq] at hletter
      have hfirst : 97 ≤ c.toNat := hletter.1
      have hlast : c.toNat ≤ 122 := hletter.2
      right
      intro d hd
      refine ⟨_, hrun asciiLetters List.mem_cons_self, c.toNat - 32, ⟨?_, ?_, Nat.mod_one _⟩,
        List.mem_singleton.mp hd⟩
      · show 65 ≤ c.toNat - 32
        omega
      · show c.toNat - 32 ≤ 65 + (122 - 97)
        omega
    · exact .inl rfl
  · split
    · next image hlookup =>
      right
      intro d hd
      obtain ⟨n, hn, rfl⟩ := List.mem_map.mp hd
      refine ⟨.single n, ?_, n, CaseRun.covers_single n, rfl⟩
      exact List.mem_append_right _ (List.mem_flatMap.mpr ⟨(c.toNat, image),
        mem_of_lookup_eq_some hlookup, List.mem_map.mpr ⟨n, hn, rfl⟩⟩)
    · cases hruns : upperRuns.findSome? (·.imageOf? c.toNat) with
      | none => exact .inl rfl
      | some n =>
        right
        intro d hd
        obtain ⟨r, hr, hn⟩ := List.exists_of_findSome?_eq_some hruns
        exact ⟨_, hrun r (List.mem_cons_of_mem _ hr), n, CaseRun.covers_range_of_imageOf? hn,
          List.mem_singleton.mp hd⟩

private theorem upperChars_of_mem_upperChars {c d : Char} (h : d ∈ upperChars c) :
    upperChars d = [d] := by
  rcases upperChars_eq_or_image c with hself | himage
  · rw [hself, List.mem_singleton] at h
    rw [h, hself]
  · obtain ⟨r, hr, n, hn, rfl⟩ := himage d h
    exact upperChars_ofNat_of_image hr hn

private theorem newline_lt_upperImages : (upperImages.all fun r => Nat.blt 10 r.first) = true := by
  decide +kernel

private theorem eq_newline_of_mem_upperChars {c : Char} (h : '\n' ∈ upperChars c) : c = '\n' := by
  rcases upperChars_eq_or_image c with hself | himage
  · rw [hself, List.mem_singleton] at h
    exact h.symm
  · obtain ⟨r, hr, n, hn, heq⟩ := himage '\n' h
    have hlt : 10 < r.first := Nat.blt_eq.mp (List.all_eq_true.mp newline_lt_upperImages r hr)
    have hle : r.first ≤ n := hn.1
    have hvalid : n.isValidChar := by
      by_contra hn
      rw [ofNat_of_not_isValidChar hn] at heq
      exact absurd heq (by decide)
    have hten : n = 10 := by
      rw [← toNat_ofNat_of_isValidChar hvalid, ← heq]
      rfl
    omega

theorem upperChars_ne_nil (c : Char) : upperChars c ≠ [] := by
  rw [upperChars]
  split
  · simp
  · split
    · next image hlookup =>
      have himage : ∀ e ∈ upperExpansions, e.2 ≠ [] := by decide
      simpa using himage (c.toNat, image) (mem_of_lookup_eq_some hlookup)
    · simp

@[simp] theorem upper_upper (s : String) : upper (upper s) = upper s := by
  rw [upper, upper, String.toList_ofList, List.flatMap_assoc]
  congr 1
  apply List.flatMap_congr
  intro c _
  calc (upperChars c).flatMap upperChars
      = (upperChars c).flatMap (fun d => [d]) :=
        List.flatMap_congr fun d hd => upperChars_of_mem_upperChars hd
    _ = upperChars c := List.flatMap_singleton' _

theorem upper_eq_empty_iff (s : String) : upper s = "" ↔ s = "" := by
  rw [← String.toList_inj, upper, String.toList_ofList, String.toList_empty,
    List.flatMap_eq_nil_iff, ← String.toList_eq_nil_iff]
  constructor
  · intro h
    cases hs : s.toList with
    | nil => rfl
    | cons c cs => exact absurd (h c (by simp [hs])) (upperChars_ne_nil c)
  · intro h c hc
    simp [h] at hc

theorem newline_notMem_upper {s : String} (h : '\n' ∉ s.toList) : '\n' ∉ (upper s).toList := by
  rw [upper, String.toList_ofList]
  intro hmem
  obtain ⟨c, hc, hnewline⟩ := List.mem_flatMap.mp hmem
  rw [eq_newline_of_mem_upperChars hnewline] at hc
  exact h hc

end ClauseAudit.Text
