import ClauseAudit.Proofs.Regex.Attempt
import ClauseAudit.Proofs.Text.LowerCase
import Mathlib.Data.Option.NAry

/-!
# Patterns that stand for words

A pattern made of single characters, one after the other or as alternatives, stands for finitely
many words. It is found in a text exactly when one of its words is a part of the text, in whatever
way the words share their characters.
-/

namespace ClauseAudit.Regex

/-- The one character that a test accepts, if the test is of this kind. -/
def CharTest.only? : CharTest → Option Char
  | .char .exact false n => if Text.isScalar n then some (Char.ofNat n) else none
  | _ => none

private theorem CharTest.eq_of_only? {test : CharTest} {ch : Char} (h : test.only? = some ch) :
    test = .char .exact false ch.toNat := by
  unfold only? at h
  split at h
  · next n =>
    split at h
    · next hscalar =>
      obtain rfl := Option.some.inj h
      rw [Text.toNat_ofNat_of_isScalar hscalar]
    · cases h
  · cases h

private theorem passes_char_iff {text : Array Char} {i : Nat} {ch : Char} :
    Passes text (.char .exact false ch.toNat) i 1 ↔ [ch] <+: text.toList.drop i := by
  have hcode : ∀ c : Char,
      (CharTest.char .exact false ch.toNat).accepts c = true ↔ c = ch := by
    intro c
    rw [← Char.toNat_inj]
    simp [CharTest.accepts]
  rw [passes_iff_exists]
  constructor
  · rintro ⟨u, hlength, hu, hdrop⟩
    obtain ⟨c, rfl⟩ := List.length_eq_one_iff.mp hlength
    rw [(hcode c).mp (hu c List.mem_cons_self)] at hdrop
    exact ⟨_, hdrop.symm⟩
  · rintro ⟨rest, hrest⟩
    refine ⟨[ch], rfl, ?_, ?_⟩
    · simp [hcode]
    · rw [← List.drop_drop, ← hrest]
      rfl

private theorem append_prefix_iff {u v cs : List Char} :
    u ++ v <+: cs ↔ u <+: cs ∧ v <+: cs.drop u.length := by
  constructor
  · rintro ⟨rest, rfl⟩
    rw [List.append_assoc, List.drop_left]
    exact ⟨List.prefix_append _ _, List.prefix_append _ _⟩
  · rintro ⟨⟨rest, rfl⟩, h⟩
    rw [List.drop_left] at h
    exact (List.prefix_append_right_inj u).mpr h

namespace Pattern

/-- The words that a pattern stands for, if it is made of single characters only. -/
def words? : Pattern → Option (List (List Char))
  | .empty => some [[]]
  | .one test => test.only?.map fun ch => [[ch]]
  | .seq p q => Option.map₂ (fun us vs => us.flatMap fun u => vs.map (u ++ ·)) p.words? q.words?
  | .alt p q => Option.map₂ (· ++ ·) p.words? q.words?
  | _ => none

private theorem finds_words {p : Pattern} {ws : List (List Char)} (h : p.words? = some ws)
    {text : Array Char} {i : Nat} {c : Captures} {k : Continuation} {slots : List (Option Nat)}
    {R : List Char → List (Option Nat) → Prop}
    (hk : ∀ w ∈ ws, w <+: text.toList.drop i → ∀ c : Captures, c.Shows slots →
      (k (i + w.length) c).Finds slots (R w))
    (hc : c.Shows slots) : (run text p false i c k).Finds slots
      (fun shown => ∃ w ∈ ws, w <+: text.toList.drop i ∧ R w shown) := by
  induction p generalizing ws i c k R with
  | empty =>
    obtain rfl : [[]] = ws := Option.some.inj h
    refine (hk [] (List.mem_singleton_self _) List.nil_prefix c hc).congr fun shown => ?_
    simp
  | one test =>
    obtain ⟨ch, hch, rfl⟩ := Option.map_eq_some_iff.mp h
    obtain rfl := CharTest.eq_of_only? hch
    refine (finds_one (fun hpasses =>
      hk [ch] (List.mem_singleton_self _) (passes_char_iff.mp hpasses) c hc) hc).congr
        fun shown => ?_
    rw [passes_char_iff]
    simp
  | seq p q hp hq =>
    obtain ⟨us, vs, hus, hvs, rfl⟩ := Option.map₂_eq_some_iff.mp h
    -- a word of the second part begins where the one of the first part ends
    have hword : ∀ {u v}, u ++ v <+: text.toList.drop i ↔
        u <+: text.toList.drop i ∧ v <+: text.toList.drop (i + u.length) := by
      intro u v
      rw [append_prefix_iff, List.drop_drop]
    have hmem : ∀ {u v}, u ∈ us → v ∈ vs → u ++ v ∈ us.flatMap fun u => vs.map (u ++ ·) :=
      fun hu hv => List.mem_flatMap.mpr ⟨_, hu, List.mem_map.mpr ⟨_, hv, rfl⟩⟩
    refine (finds_seq (hp (R := fun u shown => ∃ v ∈ vs,
      v <+: text.toList.drop (i + u.length) ∧ R (u ++ v) shown) hus (fun u hu hstart c hc =>
        hq hvs (fun v hv hnext c hc => ?_) hc) hc)).congr fun shown => ?_
    · rw [Nat.add_assoc, ← List.length_append]
      exact hk _ (hmem hu hv) (hword.mpr ⟨hstart, hnext⟩) c hc
    · constructor
      · rintro ⟨u, hu, hstart, v, hv, hnext, hR⟩
        exact ⟨u ++ v, hmem hu hv, hword.mpr ⟨hstart, hnext⟩, hR⟩
      · rintro ⟨w, hw, hstart, hR⟩
        obtain ⟨u, hu, hw⟩ := List.mem_flatMap.mp hw
        obtain ⟨v, hv, rfl⟩ := List.mem_map.mp hw
        obtain ⟨hstart, hnext⟩ := hword.mp hstart
        exact ⟨u, hu, hstart, v, hv, hnext, hR⟩
  | alt p q hp hq =>
    obtain ⟨us, vs, hus, hvs, rfl⟩ := Option.map₂_eq_some_iff.mp h
    refine (finds_alt
      (fun c hc => hp hus (fun w hw => hk w (List.mem_append_left _ hw)) hc)
      (fun c hc => hq hvs (fun w hw => hk w (List.mem_append_right _ hw)) hc) hc).congr
        fun shown => ?_
    simp only [List.mem_append, or_and_right, exists_or]
  | _ => cases h

private theorem searchFrom_eq_true_iff {p : Pattern} {ws : List (List Char)}
    (h : p.words? = some ws) (text : Array Char) (fuel i : Nat) : p.searchFrom text fuel i = true ↔
      ∃ j, i ≤ j ∧ j < i + fuel ∧ ∃ w ∈ ws, w <+: text.toList.drop j := by
  induction fuel generalizing i with
  | zero =>
    refine iff_of_false Bool.false_ne_true ?_
    rintro ⟨j, hi, hj, _⟩
    omega
  | succ fuel ih =>
    have hfind : (p.run text false i .none .matched).Finds []
        (fun shown => ∃ w ∈ ws, w <+: text.toList.drop i ∧ shown = []) :=
      finds_words h (fun w _ _ c hc => .matched hc _) Captures.shows_none
    rw [searchFrom]
    cases hrun : p.run text false i .none .matched with
    | matched position c =>
      rw [hrun] at hfind
      obtain ⟨_, _, w, hw, hstart, _⟩ := hfind
      exact iff_of_true rfl ⟨i, Nat.le_refl i, by omega, w, hw, hstart⟩
    | failed c =>
      rw [hrun] at hfind
      have hhere : ¬∃ w ∈ ws, w <+: text.toList.drop i :=
        fun ⟨w, hw, hstart⟩ => hfind.2 [] ⟨w, hw, hstart, rfl⟩
      show p.searchFrom text fuel (i + 1) = true ↔ _
      rw [ih]
      constructor
      · rintro ⟨j, hi, hj, hw⟩
        exact ⟨j, by omega, by omega, hw⟩
      · rintro ⟨j, hi, hj, hw⟩
        have hne : j ≠ i := by
          rintro rfl
          exact hhere hw
        exact ⟨j, by omega, by omega, hw⟩

/-- A search for a pattern of words is a search for one of the words. -/
theorem search_eq_true_iff {p : Pattern} {ws : List (List Char)} (h : p.words? = some ws)
    (text : String) : p.search text = true ↔ ∃ w ∈ ws, w <:+: text.toList := by
  rw [search, searchFrom_eq_true_iff h]
  constructor
  · rintro ⟨j, _, _, w, hw, hstart⟩
    exact ⟨w, hw, hstart.isInfix.trans (List.drop_suffix j _).isInfix⟩
  · rintro ⟨w, hw, before, after, htext⟩
    refine ⟨before.length, Nat.zero_le _, ?_, w, hw, ?_⟩
    · rw [← htext]
      simp only [List.size_toArray, List.length_append]
      omega
    · rw [List.toList_toArray, ← htext, List.append_assoc, List.drop_left]
      exact List.prefix_append _ _

end Pattern

end ClauseAudit.Regex
