import Mathlib.Data.List.Forall2

/-!
# Outcomes that may be faults

A computation that stops at its first fault gives a value exactly when all its parts do.
-/

namespace ClauseAudit

variable {ε α β : Type}

theorem bind_eq_ok_iff {x : Except ε α} {f : α → Except ε β} {b : β} :
    x >>= f = .ok b ↔ ∃ a, x = .ok a ∧ f a = .ok b := by
  cases x with
  | error e =>
    constructor
    · intro h
      cases h
    · rintro ⟨a, h, _⟩
      cases h
  | ok a =>
    constructor
    · exact fun h => ⟨a, rfl, h⟩
    · rintro ⟨_, h, hb⟩
      cases h
      exact hb

theorem pure_eq_ok_iff {a b : α} : (pure a : Except ε α) = .ok b ↔ a = b :=
  ⟨fun h => Except.ok.inj h, fun h => congrArg Except.ok h⟩

theorem map_eq_ok_iff {x : Except ε α} {f : α → β} {b : β} :
    x.map f = .ok b ↔ ∃ a, x = .ok a ∧ f a = b := by
  cases x <;> simp [Except.map]

theorem map_bind {γ : Type} (x : Except ε α) (f : α → Except ε β) (g : β → γ) :
    (x >>= f).map g = x >>= fun a => (f a).map g := by
  cases x <;> rfl

theorem mapError_bind {ε' : Type} (x : Except ε α) (f : α → Except ε β) (e : ε → ε') :
    (x >>= f).mapError e = x.mapError e >>= fun a => (f a).mapError e := by
  cases x <;> rfl

theorem mapError_eq_ok_iff {ε' : Type} {x : Except ε α} {e : ε → ε'} {a : α} :
    x.mapError e = .ok a ↔ x = .ok a := by
  cases x <;> simp [Except.mapError]

theorem toOption_bind (x : Except ε α) (f : α → Except ε β) :
    (x >>= f).toOption = x.toOption.bind fun a => (f a).toOption := by
  cases x <;> rfl

theorem toOption_eq_some_iff {x : Except ε α} {a : α} : x.toOption = some a ↔ x = .ok a := by
  cases x <;> simp [Except.toOption]

theorem refused_eq_ok_iff {c : Prop} [Decidable c] {e : ε} {f : α → Except ε β}
    {x : Except ε β} {b : β} :
    (if c then Except.error e >>= f else x) = .ok b ↔ ¬c ∧ x = .ok b := by
  split
  · next hc =>
    constructor
    · intro h
      cases h
    · exact fun h => absurd hc h.1
  · next hc => exact ⟨fun h => ⟨hc, h⟩, fun h => h.2⟩

theorem bind_eq_error_iff {x : Except ε α} {f : α → Except ε β} {e : ε} :
    x >>= f = .error e ↔ x = .error e ∨ ∃ a, x = .ok a ∧ f a = .error e := by
  cases x with
  | error e' =>
    constructor
    · exact fun h => .inl (congrArg Except.error (Except.error.inj h))
    · rintro (h | ⟨_, h, _⟩)
      · exact congrArg Except.error (Except.error.inj h)
      · cases h
  | ok a =>
    constructor
    · exact fun h => .inr ⟨a, rfl, h⟩
    · rintro (h | ⟨_, h, he⟩)
      · cases h
      · cases h
        exact he

theorem refused_eq_error_iff {c : Prop} [Decidable c] {e e' : ε} {f : α → Except ε β}
    {x : Except ε β} :
    (if c then Except.error e >>= f else x) = .error e' ↔ (c ∧ e = e') ∨ (¬c ∧ x = .error e') := by
  split
  · next hc =>
    constructor
    · exact fun h => .inl ⟨hc, Except.error.inj h⟩
    · rintro (⟨_, rfl⟩ | ⟨hn, _⟩)
      · rfl
      · exact absurd hc hn
  · next hc =>
    constructor
    · exact fun h => .inr ⟨hc, h⟩
    · rintro (⟨h, _⟩ | ⟨_, h⟩)
      · exact absurd h hc
      · exact h

theorem mapM_eq_ok_iff {f : α → Except ε β} {as : List α} {bs : List β} :
    as.mapM f = .ok bs ↔ List.Forall₂ (fun a b => f a = .ok b) as bs := by
  induction as generalizing bs with
  | nil =>
    rw [List.mapM_nil, pure_eq_ok_iff, List.forall₂_nil_left_iff, eq_comm]
  | cons a as ih =>
    rw [List.mapM_cons, bind_eq_ok_iff, List.forall₂_cons_left_iff]
    constructor
    · rintro ⟨b, hb, h⟩
      obtain ⟨bs', hbs, h⟩ := bind_eq_ok_iff.mp h
      exact ⟨b, bs', hb, ih.mp hbs, (pure_eq_ok_iff.mp h).symm⟩
    · rintro ⟨b, bs', hb, hbs, rfl⟩
      exact ⟨b, hb, bind_eq_ok_iff.mpr ⟨bs', ih.mpr hbs, rfl⟩⟩

theorem exists_mapM_eq_ok {f : α → Except ε β} {as : List α} (h : ∀ a ∈ as, ∃ b, f a = .ok b) :
    ∃ bs, as.mapM f = .ok bs := by
  induction as with
  | nil => exact ⟨[], rfl⟩
  | cons a as ih =>
    obtain ⟨⟨b, hb⟩, hrest⟩ := List.forall_mem_cons.mp h
    obtain ⟨bs, hbs⟩ := ih hrest
    exact ⟨b :: bs, mapM_eq_ok_iff.mpr (.cons hb (mapM_eq_ok_iff.mp hbs))⟩

/-- The fault of a list is the one of its first element that has a fault. -/
theorem mapM_eq_error_iff {f : α → Except ε β} {as : List α} {e : ε} :
    as.mapM f = .error e ↔ ∃ before a after, as = before ++ a :: after ∧
      (∀ a' ∈ before, ∃ b, f a' = .ok b) ∧ f a = .error e := by
  induction as with
  | nil =>
    rw [List.mapM_nil]
    constructor
    · intro h
      cases h
    · rintro ⟨before, a, after, has, _⟩
      simp at has
  | cons a as ih =>
    rw [List.mapM_cons, bind_eq_error_iff]
    constructor
    · rintro (ha | ⟨b, hb, h⟩)
      · exact ⟨[], a, as, rfl, by simp, ha⟩
      · rcases bind_eq_error_iff.mp h with has | ⟨_, _, hpure⟩
        · obtain ⟨before, a', after, rfl, hbefore, ha'⟩ := ih.mp has
          exact ⟨a :: before, a', after, rfl, List.forall_mem_cons.mpr ⟨⟨b, hb⟩, hbefore⟩, ha'⟩
        · cases hpure
    · rintro ⟨before, a', after, has, hbefore, ha'⟩
      cases before with
      | nil =>
        obtain ⟨rfl, rfl⟩ := List.cons.inj has
        exact .inl ha'
      | cons a'' before =>
        obtain ⟨rfl, rfl⟩ := List.cons.inj has
        obtain ⟨⟨b, hb⟩, hrest⟩ := List.forall_mem_cons.mp hbefore
        have hfirst := ih.mpr ⟨before, a', after, rfl, hrest, ha'⟩
        exact .inr ⟨b, hb, bind_eq_error_iff.mpr (.inl hfirst)⟩

end ClauseAudit
