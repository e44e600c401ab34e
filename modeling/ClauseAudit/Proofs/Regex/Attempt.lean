import ClauseAudit.Regex.Matcher
import Mathlib.Data.List.Infix

/-!
# What a match attempt finds

A pattern is run with a continuation and gives the first success. Which success is the first depends
on the order in which the ways are tried. Whether there is one does not, and it has a description
without an order: an attempt finds a property of the captured places when it succeeds with places
that have it, and fails only if no places have it. Repetition of one character, groups that open in
their order, and what stands between them pass such descriptions on.
-/

namespace ClauseAudit.Regex

namespace Captures

/-- The slots that count are the given ones. -/
structure Shows (c : Captures) (slots : List (Option Nat)) : Prop where
  live : c.live = slots.length
  initial : slots <+: c.slots.toList

theorem shows_none : none.Shows [] := ⟨rfl, List.nil_prefix⟩

theorem Shows.set {c : Captures} {slots : List (Option Nat)} (h : c.Shows slots) (i : Nat) :
    (c.set slots.length i).Shows (slots ++ [some i]) := by
  have hlive : ¬slots.length < c.live := by
    rw [h.live]
    exact Nat.lt_irrefl _
  have hkept : (c.slots.take c.live).toList = slots := by
    rw [h.live]
    simpa using (List.prefix_iff_eq_take.mp h.initial).symm
  have hsize : (c.slots.take c.live).size = slots.length := by
    rw [← Array.length_toList, hkept]
  rw [Captures.set, if_neg hlive]
  refine ⟨by simp, ?_⟩
  dsimp only
  rw [hsize, Nat.sub_self, Array.replicate_zero, Array.append_empty, Array.toList_push, hkept]

/-- What a failed attempt leaves is as good as what it started from, once it is put back. -/
theorem shows_restore {saved current : Captures} {slots : List (Option Nat)}
    (hlive : saved.live = slots.length) (h : slots <+: current.slots.toList) :
    (saved.restore current false).Shows slots := ⟨hlive, h⟩

theorem Shows.span? {c : Captures} {slots : List (Option Nat)} (h : c.Shows slots)
    {group first last : Nat} (hfirst : slots[2 * group - 2]? = some (some first))
    (hlast : slots[2 * group - 1]? = some (some last)) (hle : first ≤ last) (hgroup : 0 < group) :
    c.span? group = some (first, last) := by
  have hslot : ∀ {k : Nat} {slot : Option Nat},
      slots[k]? = some slot → c.slots[k]? = some slot := by
    intro k slot hk
    obtain ⟨hlt, rfl⟩ := List.getElem?_eq_some_iff.mp hk
    rw [← Array.getElem?_toList, h.initial.getElem hlt, List.getElem?_eq_getElem]
  have hlive : ¬c.live < 2 * group := by
    obtain ⟨hlt, _⟩ := List.getElem?_eq_some_iff.mp hlast
    rw [h.live]
    omega
  rw [Captures.span?, if_neg hlive, hslot hfirst, hslot hlast]
  simp [Nat.not_lt.mpr hle]

end Captures

/-- The attempt succeeds with places that have the property, or it fails and no places have it.
Failing leaves the given slots as they are. -/
def Outcome.Finds (slots : List (Option Nat)) (P : List (Option Nat) → Prop) : Outcome → Prop
  | .matched _ c => ∃ shown, c.Shows shown ∧ P shown
  | .failed c => slots <+: c.slots.toList ∧ ∀ shown, ¬P shown

variable {slots : List (Option Nat)} {P Q : List (Option Nat) → Prop} {o : Outcome}

namespace Outcome.Finds

theorem congr (h : o.Finds slots P) (hP : ∀ shown, P shown ↔ Q shown) : o.Finds slots Q := by
  rwa [show Q = P from funext fun shown => propext (hP shown).symm]

private theorem failed {c : Captures} (h : c.Shows slots) (hP : ∀ shown, ¬P shown) :
    (Outcome.failed c).Finds slots P := ⟨h.initial, hP⟩

theorem matched {c : Captures} (h : c.Shows slots) (position : Nat) :
    (Outcome.matched position c).Finds slots (· = slots) := ⟨slots, h, rfl⟩

private theorem ite {p : Prop} [Decidable p] {c : Captures} (hc : c.Shows slots)
    (h : p → o.Finds slots P) :
    (if p then o else Outcome.failed c).Finds slots (fun shown => p ∧ P shown) := by
  split
  · next hp => exact (h hp).congr fun shown => (and_iff_right hp).symm
  · next hp => exact failed hc fun shown hshown => hp hshown.1

theorem of_append {more : List (Option Nat)} (h : o.Finds (slots ++ more) P) :
    o.Finds slots P := by
  cases o with
  | matched _ _ => exact h
  | failed _ => exact ⟨(List.prefix_append slots more).trans h.1, h.2⟩

private theorem orElse {other : Captures → Outcome} (h : o.Finds slots P)
    (hother : ∀ c, slots <+: c.slots.toList → (other c).Finds slots Q) :
    (o.orElse other).Finds slots (fun shown => P shown ∨ Q shown) := by
  cases o with
  | matched _ _ =>
    obtain ⟨shown, hshows, hP⟩ := h
    exact ⟨shown, hshows, .inl hP⟩
  | failed c =>
    exact (hother c h.1).congr fun shown => (or_iff_right (h.2 shown)).symm

end Outcome.Finds

/-- So many characters from a place on pass a test. -/
def Passes (text : Array Char) (test : CharTest) (i n : Nat) : Prop :=
  ∀ x < n, ∃ ch, text[i + x]? = some ch ∧ test.accepts ch = true

private theorem Passes.le_room {text : Array Char} {test : CharTest} {i n : Nat}
    (h : Passes text test i n) : n ≤ text.size - i := by
  by_contra hlt
  obtain ⟨ch, hch, _⟩ := h (text.size - i) (by omega)
  obtain ⟨_, _⟩ := Array.getElem?_eq_some_iff.mp hch
  omega

theorem passes_iff_exists {text : Array Char} {test : CharTest} {i n : Nat} :
    Passes text test i n ↔ ∃ u, u.length = n ∧ (∀ ch ∈ u, test.accepts ch = true) ∧
      text.toList.drop i = u ++ text.toList.drop (i + n) := by
  constructor
  · intro h
    have hroom := h.le_room
    have hlength : ((text.toList.drop i).take n).length = n := by
      rw [List.length_take, List.length_drop, Array.length_toList]
      omega
    refine ⟨(text.toList.drop i).take n, hlength, ?_, ?_⟩
    · intro ch hmem
      obtain ⟨x, hx, rfl⟩ := List.mem_iff_getElem.mp hmem
      obtain ⟨ch, hch, htest⟩ := h x (by omega)
      obtain ⟨_, rfl⟩ := Array.getElem?_eq_some_iff.mp hch
      simpa using htest
    · rw [← List.drop_drop, List.take_append_drop]
  · rintro ⟨u, rfl, hu, hdrop⟩ x hx
    refine ⟨u[x], ?_, hu _ (List.getElem_mem hx)⟩
    rw [← Array.getElem?_toList, ← List.getElem?_drop, hdrop, List.getElem?_append_left hx,
      List.getElem?_eq_getElem]

private theorem le_countFrom_iff {text : Array Char} {test : CharTest} {i limit n m : Nat}
    (h : Passes text test i n) :
    m ≤ countFrom text test i limit n ↔ m ≤ n + limit ∧ Passes text test i m := by
  induction limit generalizing n with
  | zero =>
    rw [countFrom, Nat.add_zero]
    exact (and_iff_left_of_imp fun hm x hx => h x (by omega)).symm
  | succ limit ih =>
    have hstop : ∀ m, (¬∃ ch, text[i + n]? = some ch ∧ test.accepts ch = true) →
        (m ≤ n ↔ m ≤ n + (limit + 1) ∧ Passes text test i m) := by
      intro m hn
      constructor
      · exact fun hm => ⟨by omega, fun x hx => h x (by omega)⟩
      · rintro ⟨_, hpasses⟩
        by_contra hm
        exact hn (hpasses n (by omega))
    rw [countFrom]
    cases hch : text[i + n]? with
    | none =>
      apply hstop
      simp [hch]
    | some ch =>
      by_cases htest : test.accepts ch = true
      · have hmore : Passes text test i (n + 1) := by
          intro x hx
          rcases Nat.lt_succ_iff_lt_or_eq.mp hx with hlt | rfl
          · exact h x hlt
          · exact ⟨ch, hch, htest⟩
        simp only [htest, if_true]
        rw [ih hmore]
        apply and_congr_left'
        omega
      · simp only [htest]
        apply hstop
        simp [hch, htest]

section Run

variable {text : Array Char} {test : CharTest} {i : Nat} {c : Captures} {k : Continuation}

private theorem finds_tryDown {R : Nat → List (Option Nat) → Prop} {saved : Captures}
    {least n : Nat} (hsaved : saved.live = slots.length)
    (hk : ∀ j ≤ n, least ≤ j → ∀ c : Captures, c.Shows slots → (k (i + j) c).Finds slots (R j))
    (hc : c.Shows slots) :
    (tryDown false k i least saved n c).Finds slots
      (fun shown => ∃ j, least ≤ j ∧ j ≤ n ∧ R j shown) := by
  induction n generalizing c with
  | zero =>
    rw [tryDown]
    split
    · next hleast =>
      have hzero := hk 0 (Nat.le_refl 0) (by omega) c hc
      refine (hzero.orElse (Q := fun _ => False) fun c' hc' =>
        .failed (Captures.shows_restore hsaved hc') fun _ h => h).congr fun shown => ?_
      simp [hleast]
    · next hleast =>
      refine .failed hc ?_
      rintro shown ⟨j, hj, hzero, _⟩
      omega
  | succ n ih =>
    rw [tryDown]
    split
    · next hleast =>
      refine .failed hc ?_
      rintro shown ⟨j, hj, hn, _⟩
      omega
    · next hleast =>
      have hfirst := hk (n + 1) (Nat.le_refl _) (by omega) c hc
      refine (hfirst.orElse fun c' hc' => ih (fun j hj => hk j (by omega))
        (Captures.shows_restore hsaved hc')).congr fun shown => ?_
      constructor
      · rintro (hR | ⟨j, hj, hn, hR⟩)
        · exact ⟨n + 1, by omega, Nat.le_refl _, hR⟩
        · exact ⟨j, hj, by omega, hR⟩
      · rintro ⟨j, hj, hn, hR⟩
        rcases Nat.le_succ_iff.mp hn with hlt | rfl
        · exact .inr ⟨j, hj, hlt, hR⟩
        · exact .inl hR

namespace Pattern

theorem finds_seq {p q : Pattern}
    (h : (run text p false i c fun i c => run text q false i c k).Finds slots P) :
    (run text (.seq p q) false i c k).Finds slots P := h

theorem finds_alt {p q : Pattern}
    (hp : ∀ c : Captures, c.Shows slots → (run text p false i c k).Finds slots P)
    (hq : ∀ c : Captures, c.Shows slots → (run text q false i c k).Finds slots Q)
    (hc : c.Shows slots) :
    (run text (.alt p q) false i c k).Finds slots (fun shown => P shown ∨ Q shown) := by
  rw [run]
  refine (hp c hc).orElse fun c' hc' => ?_
  refine ((hq _ (Captures.shows_restore hc.live hc')).orElse (Q := fun _ => False) fun c'' hc'' =>
    .failed (Captures.shows_restore hc.live hc'') fun _ h => h).congr fun shown => ?_
  exact or_iff_left_of_imp False.elim

theorem finds_anchor {a : Anchor} (hk : a.holds text i = true → (k i c).Finds slots P)
    (hc : c.Shows slots) : (run text (.anchor a) false i c k).Finds slots
      (fun shown => a.holds text i = true ∧ P shown) := .ite hc hk

theorem finds_one (hk : Passes text test i 1 → (k (i + 1) c).Finds slots P)
    (hc : c.Shows slots) : (run text (.one test) false i c k).Finds slots
      (fun shown => Passes text test i 1 ∧ P shown) := by
  have hpasses : Passes text test i 1 ↔ ∃ ch, text[i]? = some ch ∧ test.accepts ch = true := by
    simp [Passes]
  rw [run]
  cases hch : text[i]? with
  | none =>
    refine .failed hc fun shown h => ?_
    simpa [hch] using hpasses.mp h.1
  | some ch =>
    have htest : Passes text test i 1 ↔ test.accepts ch = true := by
      simp [hpasses, hch]
    simp only [htest] at hk ⊢
    exact .ite hc hk

/-- Greedy repetition finds every number of characters that pass, whichever comes first. -/
theorem finds_greedy {R : Nat → List (Option Nat) → Prop} {least : Nat}
    (hk : ∀ j, least ≤ j → Passes text test i j → ∀ c : Captures, c.Shows slots →
      (k (i + j) c).Finds slots (R j))
    (hc : c.Shows slots) : (run text (.loop .greedy least none (.one test)) false i c k).Finds slots
      (fun shown => ∃ j, least ≤ j ∧ Passes text test i j ∧ R j shown) := by
  have hcount : ∀ j, j ≤ countFrom text test i (text.size - i) 0 ↔ Passes text test i j := by
    intro j
    rw [le_countFrom_iff fun x hx => absurd hx (Nat.not_lt_zero x), Nat.zero_add]
    exact and_iff_right_of_imp Passes.le_room
  -- with too few characters, in the text or passing the test, no number will do
  have hfew : (¬Passes text test i least) → ∀ shown,
      ¬∃ j, least ≤ j ∧ Passes text test i j ∧ R j shown := by
    rintro hleast shown ⟨j, hj, hpasses, _⟩
    exact hleast fun x hx => hpasses x (by omega)
  rw [run, runSingle]
  simp only [Option.getD_none, Nat.min_self]
  split
  · next hshort => exact .failed hc (hfew fun hpasses => Nat.not_le.mpr hshort hpasses.le_room)
  · split
    · next hless =>
      exact .failed hc (hfew fun hpasses => Nat.not_le.mpr hless ((hcount least).mpr hpasses))
    · refine (finds_tryDown hc.live (fun j hj hleast c hshows =>
        hk j hleast ((hcount j).mp hj) c hshows) hc).congr fun shown => ?_
      simp only [hcount]

theorem finds_capture {group : Nat} {p : Pattern} (hgroup : slots.length = 2 * group - 2)
    (hp : (run text p false i (c.set slots.length i)
      fun i c => k i (c.set (2 * group - 1) i)).Finds (slots ++ [some i]) P) :
    (run text (.capture group p) false i c k).Finds slots P := by
  rw [run, ← hgroup]
  exact hp.of_append

end Pattern

end Run

end ClauseAudit.Regex
