import ClauseAudit.Proofs.Aligned
import ClauseAudit.Proofs.Assessment.Order
import Mathlib.Algebra.Order.BigOperators.Group.List
import Mathlib.Algebra.Order.Group.Nat
import Mathlib.Data.List.Flatten

/-!
# Rules added to a policy

Rules put after those of a policy add their findings after the others, and the two scores add up as
far as the limit. Wherever rules are put in, the score does not fall and the verdict does not come
closer to safe.
-/

namespace ClauseAudit

/-- The steps of a verdict away from safe. -/
def Verdict.gravity : Verdict → Nat
  | safe => 0
  | review => 1
  | highRisk => 2

private theorem Verdict.gravity_ofScore_le {m n : Nat} (h : m ≤ n) :
    (ofScore m).gravity ≤ (ofScore n).gravity := by
  unfold ofScore
  split
  · have hn : (70 : Int) ≤ n := by omega
    rw [if_pos hn]
  · split
    · have hn : (35 : Int) ≤ n := by omega
      rw [if_pos hn]
      split <;> simp [gravity]
    · exact Nat.zero_le _

section Score

variable {xs ys : List Severity}

/-- What the limit has cut off from the parts is over the limit of the whole. -/
theorem riskScore_append (xs ys : List Severity) :
    riskScore (xs ++ ys) = min 100 (riskScore xs + riskScore ys) := by
  simp only [riskScore_eq_sum, List.map_append, List.sum_append]
  omega

private theorem riskScore_le_of_sublist (h : xs.Sublist ys) : riskScore xs ≤ riskScore ys := by
  have hsum : (xs.map Severity.weight).sum ≤ (ys.map Severity.weight).sum :=
    (h.map _).sum_le_sum fun _ _ => Nat.zero_le _
  rw [riskScore_eq_sum, riskScore_eq_sum]
  exact min_le_min_left 100 hsum

end Score

namespace Policy

section Evaluation

variable {p q r : Policy} {clauses : List Clause}

theorem evaluate_append {vs ws : List Violation} (hrules : r.rules = p.rules ++ q.rules)
    (hp : p.evaluate clauses = .ok vs) (hq : q.evaluate clauses = .ok ws) :
    r.evaluate clauses = .ok (vs ++ ws) := by
  obtain ⟨vss, hvss, rfl⟩ := evaluate_eq_ok_iff.mp hp
  obtain ⟨wss, hwss, rfl⟩ := evaluate_eq_ok_iff.mp hq
  refine evaluate_eq_ok_iff.mpr ⟨vss ++ wss, ?_, List.flatten_append⟩
  rw [hrules]
  exact List.rel_append hvss hwss

private theorem evaluate_of_sublist {us : List Violation} (hrules : p.rules.Sublist r.rules)
    (hr : r.evaluate clauses = .ok us) :
    ∃ vs, p.evaluate clauses = .ok vs ∧ vs.Sublist us := by
  obtain ⟨uss, huss, rfl⟩ := evaluate_eq_ok_iff.mp hr
  obtain ⟨vss, hvss, hsub⟩ := exists_forall₂_of_sublist huss hrules
  exact ⟨vss.flatten, evaluate_eq_ok_iff.mpr ⟨vss, hvss, rfl⟩, hsub.flatten⟩

end Evaluation

/-- `r` has the rules of `p` in their order, and between them rules of `q` in any number. -/
structure Extends (p q r : Policy) : Prop where
  keeps : p.rules.Sublist r.rules
  adds : ∀ rule ∈ r.rules, rule ∈ p.rules ∨ rule ∈ q.rules

private theorem Extends.exists_simulate {p q r : Policy} (h : Extends p q r) {contract : String}
    (hp : ∃ s, p.simulate contract = .ok s) (hq : ∃ t, q.simulate contract = .ok t) :
    ∃ u, r.simulate contract = .ok u := by
  rw [exists_simulate_iff] at hp hq ⊢
  intro rule hrule
  rcases h.adds rule hrule with hmem | hmem
  · exact hp rule hmem
  · exact hq rule hmem

end Policy

namespace Simulation

/-- `u` has the findings of `s` and then those of `t`, and the score of both together. -/
structure Joins (s t u : Simulation) : Prop where
  violations : u.violations = s.violations ++ t.violations
  riskScore : u.riskScore = min 100 (s.riskScore + t.riskScore)

/-- `u` has all findings of `s`, and its score and verdict are no lower. -/
structure AtMost (s u : Simulation) : Prop where
  violations : s.violations.Sublist u.violations
  riskScore : s.riskScore ≤ u.riskScore
  verdict : s.verdict.gravity ≤ u.verdict.gravity

end Simulation

namespace Policy

/-- Rules put after those of a policy add their findings and their score. Rules put in anywhere
take no finding away and lower neither the score nor the verdict. -/
theorem simulate_added_rules {p q : Policy} {contract : String} {s t : Simulation}
    (hp : p.simulate contract = .ok s) (hq : q.simulate contract = .ok t) :
    (∀ r : Policy, r.rules = p.rules ++ q.rules →
      ∃ u, r.simulate contract = .ok u ∧ Simulation.Joins s t u) ∧
    ∀ r : Policy, Extends p q r → ∃ u, r.simulate contract = .ok u ∧ s.AtMost u := by
  obtain ⟨hs, _, hsScore, hsVerdict⟩ := simulate_eq_ok_iff.mp hp
  obtain ⟨ht, _, htScore, _⟩ := simulate_eq_ok_iff.mp hq
  constructor
  · intro r hrules
    obtain ⟨u, hu, hviolations⟩ := exists_simulate_of_evaluate (evaluate_append hrules hs ht)
    obtain ⟨_, _, huScore, _⟩ := simulate_eq_ok_iff.mp hu
    refine ⟨u, hu, hviolations, ?_⟩
    rw [huScore, hviolations, List.map_append, riskScore_append, hsScore, htScore]
  · intro r hr
    obtain ⟨u, hu⟩ := hr.exists_simulate ⟨s, hp⟩ ⟨t, hq⟩
    obtain ⟨huEvaluate, _, huScore, huVerdict⟩ := simulate_eq_ok_iff.mp hu
    obtain ⟨vs, hvs, hsub⟩ := evaluate_of_sublist hr.keeps huEvaluate
    obtain rfl : s.violations = vs := Except.ok.inj (hs.symm.trans hvs)
    have hscore : s.riskScore ≤ u.riskScore := by
      rw [hsScore, huScore]
      exact riskScore_le_of_sublist (hsub.map _)
    refine ⟨u, hu, hsub, hscore, ?_⟩
    rw [hsVerdict, huVerdict]
    exact Verdict.gravity_ofScore_le hscore

theorem paymentPolicy_added_to : ∃ s t,
    exitPolicy.simulate "Payment on demand." = .ok s ∧
    paymentPolicy.simulate "Payment on demand." = .ok t ∧
    (∀ r : Policy, r.rules = exitPolicy.rules ++ paymentPolicy.rules →
      ∃ u, r.simulate "Payment on demand." = .ok u ∧ Simulation.Joins s t u) ∧
    ∀ r : Policy, Extends exitPolicy paymentPolicy r →
      ∃ u, r.simulate "Payment on demand." = .ok u ∧ s.AtMost u := by
  have hexit : exitPolicy.Built := .loaded (v := exitPolicy.toJson) rfl
  have hpayment : paymentPolicy.Built := .loaded (v := paymentPolicy.toJson) rfl
  obtain ⟨s, hs⟩ := exists_simulate_eq_ok hexit.sound "Payment on demand."
  obtain ⟨t, ht⟩ := exists_simulate_eq_ok hpayment.sound "Payment on demand."
  exact ⟨s, t, hs, ht, simulate_added_rules hs ht⟩

end Policy

end ClauseAudit
