import ClauseAudit.Proofs.Assessment.Simulation
import ClauseAudit.Proofs.Contract.Segmentation

/-!
# What a rule looks at

A rule looks at the texts of the clauses of its type and at nothing else. With one of them or more,
it finds what it finds in each, one after the other, and its patterns have to be usable. Without
one, it misses what it requires.
-/

namespace ClauseAudit.Rule

def texts (r : Rule) (clauses : List Clause) : List String :=
  (clauses.filter fun c => c.clauseType == r.clauseType).map (·.text)

def Applies (r : Rule) (contract : String) : Prop :=
  ∃ c ∈ Clause.segment contract, c.clauseType = r.clauseType

/-- What is found without a clause of the type. -/
def absence (r : Rule) : List Violation :=
  if r.required.isSome then
    [r.violation ("No clause found for required type " ++ r.clauseType) ""]
  else []

/-- What the rule finds in texts of its type. -/
inductive Finds (r : Rule) (texts : List String) : List Violation → Prop
  | absent (hnone : texts = []) : Finds r texts r.absence
  | judged {required forbidden : Option Regex.Pattern} (hne : texts ≠ [])
      (hrequired : prepare r.required = .ok required)
      (hforbidden : prepare r.forbidden = .ok forbidden) :
      Finds r texts (texts.flatMap (r.judge required forbidden))

theorem evaluate_eq_ok_iff {r : Rule} {clauses : List Clause} {vs : List Violation} :
    r.evaluate clauses = .ok vs ↔ r.Finds (r.texts clauses) vs := by
  rw [evaluate, texts]
  split
  · next hnone =>
    rw [hnone, List.map_nil]
    constructor
    · intro h
      obtain rfl : r.absence = vs := Except.ok.inj h
      exact .absent rfl
    · intro h
      cases h with
      | absent _ => rfl
      | judged hne => exact absurd rfl hne
  · next hsome =>
    have hne : (clauses.filter fun c => c.clauseType == r.clauseType).map (·.text) ≠ [] :=
      fun hnil => hsome (List.map_eq_nil_iff.mp hnil)
    simp only [bind_eq_ok_iff, pure_eq_ok_iff]
    constructor
    · rintro ⟨required, hrequired, forbidden, hforbidden, rfl⟩
      rw [← List.flatMap_map]
      exact .judged hne hrequired hforbidden
    · intro h
      cases h with
      | absent hnone => exact absurd hnone hne
      | judged _ hrequired hforbidden =>
        exact ⟨_, hrequired, _, hforbidden, by rw [List.flatMap_map]⟩

variable {r : Rule}

private theorem Finds.eq_absence {vs : List Violation} (h : r.Finds [] vs) : vs = r.absence := by
  cases h with
  | absent _ => rfl
  | judged hne => exact absurd rfl hne

/-- What is found in the texts of two groups is found in the one and then in the other. An empty
group counts only when the other one is empty too. -/
theorem Finds.exists_append {xs ys : List String} {vs ws : List Violation} (hxs : r.Finds xs vs)
    (hys : r.Finds ys ws) :
    ∃ us, r.Finds (xs ++ ys) us ∧ (xs ≠ [] → ys ≠ [] → us = vs ++ ws) ∧ (ys = [] → us = vs) ∧
      (xs = [] → us = ws) := by
  cases hxs with
  | absent hx =>
    refine ⟨ws, by rw [hx]; exact hys, fun hne => absurd hx hne, ?_, fun _ => rfl⟩
    rintro rfl
    exact hys.eq_absence
  | judged hx hrequired hforbidden =>
    cases hys with
    | absent hy =>
      refine ⟨_, ?_, fun _ hne => absurd hy hne, fun _ => rfl, fun hnil => absurd hnil hx⟩
      rw [hy, List.append_nil]
      exact .judged hx hrequired hforbidden
    | judged hy hrequired' hforbidden' =>
      obtain rfl := Except.ok.inj (hrequired.symm.trans hrequired')
      obtain rfl := Except.ok.inj (hforbidden.symm.trans hforbidden')
      rw [← List.flatMap_append]
      exact ⟨_, .judged (List.append_ne_nil_of_left_ne_nil hx ys) hrequired hforbidden,
        fun _ _ => rfl, fun hnil => absurd hnil hy, fun hnil => absurd hnil hx⟩

theorem Finds.perm {xs ys : List String} {vs : List Violation} (h : r.Finds xs vs)
    (hperm : ys.Perm xs) : ∃ ws, r.Finds ys ws ∧ ws.Perm vs := by
  cases h with
  | absent hnone =>
    rw [hnone] at hperm
    exact ⟨_, .absent hperm.eq_nil, .refl _⟩
  | judged hne hrequired hforbidden =>
    refine ⟨_, .judged ?_ hrequired hforbidden, hperm.flatMap_right _⟩
    rintro rfl
    exact hne hperm.symm.eq_nil

/-! ## Texts of a contract -/

theorem texts_segment (r : Rule) (contract : String) :
    r.texts (Clause.segment contract) =
      (Clause.blocks contract).filter fun text => Clause.infer text == r.clauseType := by
  have hnumber (k : Nat) (blocks : List String) : r.texts (Clause.number k blocks) =
      blocks.filter fun text => Clause.infer text == r.clauseType := by
    induction blocks generalizing k with
    | nil => rfl
    | cons text rest ih =>
      rw [Clause.number, texts, List.filter_cons, List.filter_cons]
      split
      · rw [List.map_cons, ← ih (k + 1)]
        rfl
      · rw [← ih (k + 1)]
        rfl
  exact hnumber 1 _

theorem texts_eq_nil_iff {contract : String} :
    r.texts (Clause.segment contract) = [] ↔ ¬r.Applies contract := by
  simp [texts, Applies, List.filter_eq_nil_iff]

end ClauseAudit.Rule
