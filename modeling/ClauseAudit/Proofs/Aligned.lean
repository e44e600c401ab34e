import Mathlib.Data.List.Forall2

/-!
# Lists that are aligned

Two lists whose elements are related one by one.
-/

namespace ClauseAudit

variable {α β : Type} {R : α → β → Prop}

theorem forall₂_append_iff {as as' : List α} {bs : List β} :
    List.Forall₂ R (as ++ as') bs ↔
      ∃ cs cs', bs = cs ++ cs' ∧ List.Forall₂ R as cs ∧ List.Forall₂ R as' cs' := by
  constructor
  · intro h
    induction as generalizing bs with
    | nil => exact ⟨[], bs, rfl, .nil, h⟩
    | cons a as ih =>
      cases h with
      | cons hab hrest =>
        obtain ⟨cs, cs', rfl, hcs, hcs'⟩ := ih hrest
        exact ⟨_ :: cs, cs', rfl, .cons hab hcs, hcs'⟩
  · rintro ⟨cs, cs', rfl, hcs, hcs'⟩
    exact List.rel_append hcs hcs'

theorem forall₂_concat_iff {as : List α} {a : α} {bs : List β} :
    List.Forall₂ R (as ++ [a]) bs ↔
      ∃ bs' b, bs = bs' ++ [b] ∧ List.Forall₂ R as bs' ∧ R a b := by
  rw [forall₂_append_iff]
  constructor
  · rintro ⟨bs', last, rfl, hrest, hlast⟩
    cases hlast with
    | cons hab hnil =>
      cases hnil
      exact ⟨bs', _, rfl, hrest, hab⟩
  · rintro ⟨bs', b, rfl, hrest, hab⟩
    exact ⟨bs', [b], rfl, hrest, .cons hab .nil⟩

theorem forall₂_forall_right {P : β → Prop} {as : List α} {bs : List β}
    (h : List.Forall₂ R as bs) (hP : ∀ a b, R a b → P b) : ∀ b ∈ bs, P b := by
  induction h with
  | nil => simp
  | cons hab _ ih => exact List.forall_mem_cons.mpr ⟨hP _ _ hab, ih⟩

theorem exists_getElem?_left {as : List α} {bs : List β} (h : List.Forall₂ R as bs) {i : Nat}
    {b : β} (hb : bs[i]? = some b) : ∃ a, as[i]? = some a ∧ R a b := by
  obtain ⟨hlength, hget⟩ := List.forall₂_iff_get.mp h
  obtain ⟨hi, rfl⟩ := List.getElem?_eq_some_iff.mp hb
  exact ⟨as[i], List.getElem?_eq_getElem (hlength ▸ hi), hget i (hlength ▸ hi) hi⟩

theorem exists_mem_left {as : List α} {bs : List β} (h : List.Forall₂ R as bs) {b : β}
    (hb : b ∈ bs) : ∃ a ∈ as, R a b := by
  obtain ⟨i, hi⟩ := List.mem_iff_getElem?.mp hb
  obtain ⟨a, ha, hab⟩ := exists_getElem?_left h hi
  exact ⟨a, List.mem_of_getElem? ha, hab⟩

theorem forall₂_filter_singleton {a : α} {b : β} {p : α → Bool} {c : Prop} [Decidable c]
    (hp : p a = true ↔ c) (hab : R a b) :
    List.Forall₂ R ([a].filter p) (if c then [b] else []) := by
  by_cases hc : c
  · rw [if_pos hc, List.filter_cons_of_pos (hp.mpr hc)]
    exact .cons hab .nil
  · rw [if_neg hc, List.filter_cons_of_neg (fun h => hc (hp.mp h))]
    exact .nil

theorem flatMap_eq_self {as : List α} {f : α → List α} (h : ∀ a ∈ as, f a = [a]) :
    as.flatMap f = as := by
  rw [List.flatMap_congr h, List.flatMap_singleton']

theorem forall₂_flatMap {γ : Type} {as : List γ} {f : γ → List α} {g : γ → List β}
    (h : ∀ a ∈ as, List.Forall₂ R (f a) (g a)) :
    List.Forall₂ R (as.flatMap f) (as.flatMap g) := by
  induction as with
  | nil => exact .nil
  | cons a as ih =>
    obtain ⟨ha, has⟩ := List.forall_mem_cons.mp h
    exact List.rel_append ha (ih has)

/-- When related elements have a third one between them, aligned lists have a list between them. -/
theorem exists_forall₂_between {γ : Type} {S : α → γ → Prop} {T : γ → β → Prop} {as : List α}
    {bs : List β} (h : List.Forall₂ R as bs) (hR : ∀ a b, R a b → ∃ c, S a c ∧ T c b) :
    ∃ cs, List.Forall₂ S as cs ∧ List.Forall₂ T cs bs := by
  induction h with
  | nil => exact ⟨[], .nil, .nil⟩
  | cons hab _ ih =>
    obtain ⟨c, hac, hcb⟩ := hR _ _ hab
    obtain ⟨cs, hleft, hright⟩ := ih
    exact ⟨c :: cs, .cons hac hleft, .cons hcb hright⟩

theorem exists_forall₂_of_sublist {as as' : List α} {bs' : List β} (h : List.Forall₂ R as' bs')
    (hsub : as.Sublist as') : ∃ bs, List.Forall₂ R as bs ∧ bs.Sublist bs' := by
  induction hsub generalizing bs' with
  | slnil => exact ⟨[], .nil, List.nil_sublist bs'⟩
  | cons a' _ ih =>
    cases h with
    | cons _ hrest =>
      obtain ⟨bs, hbs, hsub⟩ := ih hrest
      exact ⟨bs, hbs, hsub.cons _⟩
  | cons_cons a _ ih =>
    cases h with
    | cons hab hrest =>
      obtain ⟨bs, hbs, hsub⟩ := ih hrest
      exact ⟨_ :: bs, .cons hab hbs, hsub.cons_cons _⟩

end ClauseAudit
