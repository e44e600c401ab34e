import ClauseAudit.Proofs.Logging.Names
import Mathlib.Data.List.TakeWhile

/-!
# Links between loggers

Loggers come to be known in any order. Each is linked to the nearest known one above it: a new one
takes its place between those below, which waited for it, and those above. A link is not mended
where the new name is taken for one further down, and this happens only at the names with which the
root's own name begins. So the links of a logger lead through all known loggers above it, unless one
of these names was given late.
-/

namespace ClauseAudit.Logging

theorem canonicalName_ne_empty (name : String) : canonicalName name ≠ "" := by
  rw [canonicalName]
  split
  · decide
  · next h => simpa using h

@[simp]
theorem canonicalName_canonicalName (name : String) :
    canonicalName (canonicalName name) = canonicalName name := by
  have h := canonicalName_ne_empty name
  rw [canonicalName, if_neg (by simpa using h)]

theorem canonicalName_eq_self {name : String} (h : name ≠ "") : canonicalName name = name := by
  rw [canonicalName, if_neg (by simpa using h)]

/-- The names with which the root's name begins. -/
def rootStarts : List String := ["r", "ro", "roo"]

theorem mem_rootStarts {name : String} (hne : name ≠ "") (hroot : name ≠ rootName)
    (h : name.toList.isPrefixOf rootName.toList = true) : name ∈ rootStarts := by
  have hinits : name.toList ∈ rootName.toList.inits := by
    rw [List.mem_inits]
    exact List.isPrefixOf_iff_prefix.mp h
  have hall : rootName.toList.inits =
      ["".toList, "r".toList, "ro".toList, "roo".toList, rootName.toList] := by decide
  simp only [hall, List.mem_cons, List.not_mem_nil, or_false, String.toList_inj] at hinits
  rcases hinits with h | h | h | h | h
  · exact absurd h hne
  · simp [rootStarts, h]
  · simp [rootStarts, h]
  · simp [rootStarts, h]
  · exact absurd h hroot

/-- A name was not given before one above it with which the root's name begins. -/
def Timely (names : List String) (n : String) : Prop :=
  ∀ u ∈ names, u ∈ rootStarts → IsAbove u n → n ∉ names.takeWhile (· ≠ u)

section Timely

variable {names : List String} {n k : String} (h : Timely (names ++ [k]) n)

include h

private theorem Timely.init : Timely names n := by
  intro u hu hstart habove
  have hlater := h u (List.mem_append_left _ hu) hstart habove
  rw [List.takeWhile_append, if_neg] at hlater
  · exact hlater
  · intro hlength
    have hall := List.takeWhile_eq_self_iff.mp
      ((List.takeWhile_prefix fun x => decide (x ≠ u)).eq_of_length hlength) u hu
    simp at hall

private theorem Timely.last (hnew : k ∉ names) (hstart : k ∈ rootStarts) (habove : IsAbove k n) :
    n ∉ names := by
  have hlater := h k (List.mem_append_right _ List.mem_cons_self) hstart habove
  rw [List.takeWhile_append_of_pos] at hlater
  · exact fun hmem => hlater (List.mem_append_left _ hmem)
  · intro m hm
    have hne : m ≠ k := fun heq => hnew (heq ▸ hm)
    simpa using hne

end Timely

/-- A name has no two dots in a row, and neither it nor one above it was given before one still
further up with which the root's name begins. -/
structure Orderly (names : List String) (name : String) : Prop where
  spaced : Spaced name
  timely : ∀ n, n = name ∨ IsAbove n name → Timely names n

private theorem Orderly.of_isAbove {names : List String} {name upper : String}
    (h : Orderly names name) (habove : IsAbove upper name) : Orderly names upper where
  spaced := h.spaced.of_isAbove habove
  timely n hn := by
    rcases hn with rfl | hn
    · exact h.timely n (.inr habove)
    · exact h.timely n (.inr (hn.trans habove))

theorem Orderly.init {names : List String} {name k : String} (h : Orderly (names ++ [k]) name) :
    Orderly names name :=
  ⟨h.spaced, fun n hn => (h.timely n hn).init⟩

section Nearest

variable {known : String → Bool} {n p : String} {as : List String}

private theorem find?_known_or (hn : known n = false) :
    as.find? (fun m => known m || m == n) =
      if n ∈ as.takeWhile (fun m => !known m) then some n else as.find? known := by
  induction as with
  | nil => simp
  | cons a as ih =>
    cases ha : known a with
    | true => simp [ha]
    | false =>
      by_cases heq : a = n
      · simp [heq, hn]
      · simp [ha, heq, Ne.symm heq, ih]

theorem length_lt_of_mem_takeWhile (has : as.Pairwise fun a b => b.length < a.length)
    (hn : n ∈ as.takeWhile fun m => !known m) (hp : as.find? known = some p) :
    p.length < n.length := by
  obtain ⟨hknown, before, after, rfl, hbefore⟩ := List.find?_eq_some_iff_append.mp hp
  rw [List.takeWhile_append_of_pos hbefore, List.takeWhile_cons_of_neg (by simp [hknown]),
    List.append_nil] at hn
  exact (List.pairwise_append.mp has).2.2 n hn p List.mem_cons_self

private theorem exists_nearer (has : as.Pairwise fun a b => b.length < a.length) (hn : n ∈ as)
    (hunknown : known n = false) (hpast : n ∉ as.takeWhile fun m => !known m) :
    ∃ p, as.find? known = some p ∧ n.length < p.length := by
  induction as with
  | nil => cases hn
  | cons a as ih =>
    obtain ⟨ha, has⟩ := List.pairwise_cons.mp has
    cases hknown : known a with
    | true =>
      refine ⟨a, by simp [hknown], ?_⟩
      rcases List.mem_cons.mp hn with rfl | hn
      · rw [hunknown] at hknown
        cases hknown
      · exact ha n hn
    | false =>
      rw [List.takeWhile_cons_of_pos (by simp [hknown]), List.mem_cons, not_or] at hpast
      obtain ⟨p, hp, hlength⟩ := ih has ((List.mem_cons.mp hn).resolve_left hpast.1) hpast.2
      exact ⟨p, by simp [hknown, hp], hlength⟩

theorem mem_takeWhile_of_known_or {u : String}
    (hu : u ∈ as.takeWhile fun m => !(known m || m == n)) :
    u ∈ as.takeWhile (fun m => !known m) ∧ u ≠ n := by
  refine ⟨?_, ?_⟩
  · induction as with
    | nil => cases hu
    | cons a as ih =>
      cases ha : known a with
      | true => simp [ha] at hu
      | false =>
        by_cases heq : a = n
        · simp [heq] at hu
        · rw [List.takeWhile_cons_of_pos (by simp [ha, heq]), List.mem_cons] at hu
          rw [List.takeWhile_cons_of_pos (by simp [ha]), List.mem_cons]
          exact hu.imp_right ih
  · have htest := List.mem_takeWhile_imp hu
    rintro rfl
    simp at htest

end Nearest

theorem lookup_map {α β : Type} (f : String → α → β) (k : String) (l : List (String × α)) :
    (l.map fun e => (e.1, f e.1 e.2)).lookup k = (l.lookup k).map (f k) := by
  induction l with
  | nil => rfl
  | cons e l ih =>
    obtain ⟨key, a⟩ := e
    by_cases h : k = key
    · simp [h]
    · simp [List.lookup_cons, beq_eq_false_iff_ne.mpr h, ih]

namespace Registry

variable {r : Registry} {name : String}

theorem isKnown_eq_false_iff : r.isKnown name = false ↔ r.loggers.lookup name = none := by
  rw [isKnown, Option.isSome_eq_false_iff, Option.isNone_iff_eq_none]

theorem enter_eq_self (h : canonicalName name = rootName ∨ r.isKnown (canonicalName name) = true) :
    r.enter name = r := by
  rw [enter]
  exact if_pos (by simpa using h)

section Enter

variable (hroot : canonicalName name ≠ rootName) (hnew : r.isKnown (canonicalName name) = false)

include hroot hnew

theorem enter_new : r.enter name =
    { r with
      loggers := (r.loggers.map fun l => (l.1, r.relink (canonicalName name) l.1 l.2))
        ++ [(canonicalName name,
          { above := (namesAbove (canonicalName name)).find? r.isKnown })]
      waiting := r.waiting.filter (·.1 != canonicalName name)
        ++ ((namesAbove (canonicalName name)).takeWhile fun n => !r.isKnown n).map
          fun n => (n, canonicalName name) } := by
  rw [enter]
  exact if_neg (by simp [hroot, hnew])

theorem lookup_enter (k : String) : (r.enter name).loggers.lookup k =
    ((r.loggers.lookup k).map (r.relink (canonicalName name) k)).or
      (if k = canonicalName name then
        some { above := (namesAbove (canonicalName name)).find? r.isKnown } else none) := by
  rw [enter_new hroot hnew]
  simp only [List.lookup_append, lookup_map, List.lookup_cons, List.lookup_nil]
  by_cases h : k = canonicalName name
  · simp [h]
  · simp [h, beq_eq_false_iff_ne.mpr h]

private theorem isKnown_enter_new (k : String) :
    (r.enter name).isKnown k = (r.isKnown k || k == canonicalName name) := by
  rw [isKnown, lookup_enter hroot hnew, isKnown]
  by_cases h : k = canonicalName name <;> cases r.loggers.lookup k <;> simp [h]

end Enter

theorem isKnown_enter (r : Registry) (name k : String) : (r.enter name).isKnown k = true ↔
    r.isKnown k = true ∨ k = canonicalName name ∧ k ≠ rootName := by
  by_cases hroot : canonicalName name = rootName
  · rw [enter_eq_self (.inl hroot), hroot]
    tauto
  cases hnew : r.isKnown (canonicalName name) with
  | true =>
    rw [enter_eq_self (.inr hnew)]
    refine ⟨.inl, ?_⟩
    rintro (hk | ⟨rfl, _⟩)
    · exact hk
    · exact hnew
  | false =>
    rw [isKnown_enter_new hroot hnew, Bool.or_eq_true, beq_iff_eq]
    refine or_congr_right ⟨fun hk => ⟨hk, hk ▸ hroot⟩, And.left⟩

/-- The links of known loggers, for names that were given in this order. -/
structure Linked (r : Registry) (names : List String) : Prop where
  known : ∀ n, r.isKnown n = true ↔ n ∈ names ∧ n ≠ rootName
  above : ∀ n l, r.loggers.lookup n = some l → Timely names n →
    l.above = (namesAbove n).find? r.isKnown
  waits : ∀ n, r.isKnown n = true → ∀ u ∈ (namesAbove n).takeWhile (fun m => !r.isKnown m),
    (u, n) ∈ r.waiting
  waiting : ∀ u n, (u, n) ∈ r.waiting → r.isKnown n = true ∧ u ∈ namesAbove n

variable {names : List String}

theorem linked_empty : Linked {} [] where
  known n := by simp [isKnown]
  above n l h := by cases h
  waits n h := by cases h
  waiting u n h := by cases h

/-- A new logger takes the place of a link exactly where it is nearer. -/
theorem Linked.above_relink (h : r.Linked names) {n c : String} {l : Logger} (hne : n ≠ "")
    (hroot : n ≠ rootName) (hnew : r.isKnown n = false) (hc : r.loggers.lookup c = some l)
    (htimely : Timely names c) (hlate : n ∈ rootStarts → ¬IsAbove n c) :
    (r.relink n c l).above = (namesAbove c).find? fun m => r.isKnown m || m == n := by
  have hknown : r.isKnown c = true := by rw [isKnown, hc]; rfl
  have habove := h.above c l hc htimely
  have horder := pairwise_namesAbove c
  rw [find?_known_or hnew]
  by_cases hnear : n ∈ (namesAbove c).takeWhile fun m => !r.isKnown m
  · rw [if_pos hnear]
    have hmem : n ∈ namesAbove c := List.takeWhile_subset _ hnear
    have hprefix : n.toList.isPrefixOf (l.above.getD rootName).toList = false := by
      rw [habove]
      cases hp : (namesAbove c).find? r.isKnown with
      | none =>
        -- The link leads to the root, whose name must not be taken for one further down.
        refine Bool.eq_false_iff.mpr fun hprefix => ?_
        exact hlate (mem_rootStarts hne hroot hprefix) (isAbove_of_mem_namesAbove hmem)
      | some p =>
        have hlength := length_lt_of_mem_takeWhile horder hnear hp
        have hpabove := isAbove_of_mem_namesAbove (List.mem_of_find?_eq_some hp)
        refine Bool.eq_false_iff.mpr fun hprefix => ?_
        have := ((isAbove_of_mem_namesAbove hmem).isPrefixOf_iff hpabove).mp hprefix
        omega
    rw [relink, if_pos (by simp [h.waits c hknown n hnear, hprefix])]
  · rw [if_neg hnear, ← habove, relink]
    split
    · next hlink =>
      simp only [Bool.and_eq_true, List.contains_iff_mem, Bool.not_eq_true'] at hlink
      have hmem := (h.waiting n c hlink.1).2
      obtain ⟨p, hp, hlength⟩ := exists_nearer horder hmem hnew hnear
      have hprefix := ((isAbove_of_mem_namesAbove hmem).isPrefixOf_iff
        (isAbove_of_mem_namesAbove (List.mem_of_find?_eq_some hp))).mpr (by omega)
      rw [habove, hp, Option.getD_some, hprefix] at hlink
      cases hlink.2
    · rfl

theorem Linked.enter (h : r.Linked names) (name : String) :
    (r.enter name).Linked (names ++ [canonicalName name]) := by
  have hne := canonicalName_ne_empty name
  have hmem (n : String) : (r.enter name).isKnown n = true ↔
      n ∈ names ++ [canonicalName name] ∧ n ≠ rootName := by
    rw [isKnown_enter, h.known, ← or_and_right, List.mem_append, List.mem_singleton]
  have habove (n : String) (l : Logger) (hl : r.loggers.lookup n = some l)
      (htimely : Timely (names ++ [canonicalName name]) n) :
      l.above = (namesAbove n).find? r.isKnown := h.above n l hl htimely.init
  by_cases hroot : canonicalName name = rootName
  · rw [enter_eq_self (.inl hroot)] at hmem ⊢
    exact ⟨hmem, habove, h.waits, h.waiting⟩
  cases hnew : r.isKnown (canonicalName name) with
  | true =>
    rw [enter_eq_self (.inr hnew)] at hmem ⊢
    exact ⟨hmem, habove, h.waits, h.waiting⟩
  | false =>
    have hnames : canonicalName name ∉ names := by
      intro hgiven
      rw [(h.known _).mpr ⟨hgiven, hroot⟩] at hnew
      cases hnew
    have hknown := isKnown_enter_new hroot hnew
    have hfun : (r.enter name).isKnown = fun m => r.isKnown m || m == canonicalName name :=
      funext hknown
    have hself : canonicalName name ∉ namesAbove (canonicalName name) := fun habove =>
      Nat.lt_irrefl _ (isAbove_of_mem_namesAbove habove).length_lt
    have hselfNear :
        canonicalName name ∉ (namesAbove (canonicalName name)).takeWhile fun m => !r.isKnown m :=
      fun hnear => hself (List.takeWhile_subset _ hnear)
    refine ⟨hmem, fun n l hl htimely => ?_, fun n hn u hu => ?_, fun u n hwait => ?_⟩
    · rw [hfun]
      rw [lookup_enter hroot hnew] at hl
      cases hold : r.loggers.lookup n with
      | some l' =>
        rw [hold] at hl
        obtain rfl : r.relink (canonicalName name) n l' = l := Option.some.inj hl
        have hgiven : n ∈ names := ((h.known n).mp (by rw [isKnown, hold]; rfl)).1
        exact h.above_relink hne hroot hnew hold htimely.init
          fun hstart habove => htimely.last hnames hstart habove hgiven
      | none =>
        rw [hold, Option.map_none, Option.none_or] at hl
        split at hl
        · next heq =>
          rw [← Option.some.inj hl, heq, find?_known_or hnew, if_neg hselfNear]
        · cases hl
    · rw [hfun] at hu
      obtain ⟨hnear, hother⟩ := mem_takeWhile_of_known_or hu
      rw [enter_new hroot hnew]
      rw [hknown, Bool.or_eq_true, beq_iff_eq] at hn
      refine List.mem_append.mpr ?_
      rcases hn with hn | rfl
      · exact .inl (List.mem_filter.mpr ⟨h.waits n hn u hnear, by simpa using hother⟩)
      · exact .inr (List.mem_map.mpr ⟨u, hnear, rfl⟩)
    · rw [enter_new hroot hnew] at hwait
      rw [hknown]
      rcases List.mem_append.mp hwait with hold | hmap
      · obtain ⟨hn, hu⟩ := h.waiting u n (List.mem_filter.mp hold).1
        exact ⟨by simp [hn], hu⟩
      · obtain ⟨u', hu', heq⟩ := List.mem_map.mp hmap
        obtain ⟨rfl, rfl⟩ := Prod.mk.inj heq
        exact ⟨by simp, List.takeWhile_subset _ hu'⟩

/-- A known logger's way up leads through all known loggers above its name. -/
theorem Linked.chainFrom_eq (h : r.Linked names) {n : String} (horderly : Orderly names n)
    (hne : n ≠ "") (hknown : r.isKnown n = true) {fuel : Nat} (hfuel : n.length ≤ fuel) :
    r.chainFrom fuel n = ((n :: namesAbove n).filter r.isKnown).map
      (fun m => (r.loggers.lookup m).getD {}) ++ [r.root] := by
  induction fuel generalizing n with
  | zero =>
    have hlength : n.length = 0 := Nat.le_zero.mp hfuel
    rw [← String.length_toList, List.length_eq_zero_iff, String.toList_eq_nil_iff] at hlength
    exact absurd hlength hne
  | succ fuel ih =>
    obtain ⟨l, hl⟩ := Option.isSome_iff_exists.mp hknown
    rw [chainFrom, hl]
    dsimp only
    rw [h.above n l hl (horderly.timely n (.inl rfl)), List.filter_cons_of_pos hknown, List.map_cons,
      hl, Option.getD_some, List.cons_append]
    congr 1
    cases hp : (namesAbove n).find? r.isKnown with
    | none =>
      rw [List.filter_eq_nil_iff.mpr (List.find?_eq_none.mp hp)]
      rfl
    | some p =>
      obtain ⟨hpknown, before, after, hsplit, hbefore⟩ := List.find?_eq_some_iff_append.mp hp
      have hpabove := isAbove_of_mem_namesAbove (List.mem_of_find?_eq_some hp)
      have hnone : before.filter r.isKnown = [] :=
        List.filter_eq_nil_iff.mpr fun m hm => by simpa using hbefore m hm
      have hlength := hpabove.length_lt
      rw [hsplit, List.filter_append, hnone, List.nil_append,
        horderly.spaced.namesAbove_suffix hsplit]
      exact ih (horderly.of_isAbove hpabove) hpabove.1 hpknown (by omega)

end Registry

end ClauseAudit.Logging
