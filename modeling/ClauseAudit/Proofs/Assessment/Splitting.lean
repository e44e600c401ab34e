import ClauseAudit.Proofs.Aligned
import ClauseAudit.Proofs.Assessment.Order
import Mathlib.Data.List.Perm.Basic

/-!
# Rules split in two

A rule with both checks can be written as two rules, one for each check. The first one finds what
is missing and also that there is no clause at all, which the second one never does. So both
together find what the rule finds, in another order when there are several clauses.
-/

namespace ClauseAudit

namespace Rule

def requirement (r : Rule) : Rule := { r with forbidden := none }

def prohibition (r : Rule) : Rule := { r with required := none }

private theorem absence_prohibition (r : Rule) : r.prohibition.absence = [] := rfl

private theorem absence_requirement (r : Rule) : r.requirement.absence = r.absence := rfl

theorem judge_eq_append (r : Rule) (required forbidden : Option Regex.Pattern) (text : String) :
    r.judge required forbidden text =
      r.requirement.judge required none text ++ r.prohibition.judge none forbidden text := by
  simp only [judge, List.append_nil, List.nil_append]
  rfl

private theorem Finds.exists_split {r : Rule} {texts : List String} {vs : List Violation}
    (h : r.Finds texts vs) : ∃ us ws, r.requirement.Finds texts us ∧
      r.prohibition.Finds texts ws ∧ (us ++ ws).Perm vs := by
  cases h with
  | absent hnone =>
    refine ⟨_, _, .absent hnone, .absent hnone, ?_⟩
    rw [absence_prohibition, absence_requirement, List.append_nil]
  | @judged required forbidden hne hrequired hforbidden =>
    refine ⟨_, _, .judged hne hrequired rfl, .judged hne rfl hforbidden, ?_⟩
    rw [funext (judge_eq_append r required forbidden)]
    exact List.flatMap_append_perm texts _ _

end Rule

namespace Policy

private theorem evaluate_split {p q : Policy} {before after : List Rule} {rule : Rule}
    {clauses : List Clause} {vs : List Violation} (hp : p.rules = before ++ rule :: after)
    (hq : q.rules = before ++ rule.requirement :: rule.prohibition :: after)
    (h : p.evaluate clauses = .ok vs) : ∃ vs', q.evaluate clauses = .ok vs' ∧ vs'.Perm vs := by
  obtain ⟨vss, hvss, rfl⟩ := evaluate_eq_ok_iff.mp h
  rw [hp] at hvss
  obtain ⟨first, rest, rfl, hfirst, hrest⟩ := forall₂_append_iff.mp hvss
  cases hrest with
  | @cons _ ws _ last hrule hlast =>
    obtain ⟨us, us', hus, hus', hperm⟩ := (Rule.evaluate_eq_ok_iff.mp hrule).exists_split
    refine ⟨(first ++ us :: us' :: last).flatten, evaluate_eq_ok_iff.mpr ⟨_, ?_, rfl⟩, ?_⟩
    · rw [hq]
      exact List.rel_append hfirst
        (.cons (Rule.evaluate_eq_ok_iff.mpr hus) (.cons (Rule.evaluate_eq_ok_iff.mpr hus') hlast))
    · simp only [List.flatten_append, List.flatten_cons]
      rw [← List.append_assoc us]
      exact (hperm.append_right _).append_left _

/-- Assessments with two policies whose findings differ in order only, and whose reports have the
same counts in the same order. -/
structure SameReport (p q : Policy) (s s' : Simulation) : Prop where
  clausesAnalyzed : s'.clausesAnalyzed = s.clausesAnalyzed
  violations : s'.violations.Perm s.violations
  riskScore : s'.riskScore = s.riskScore
  verdict : s'.verdict = s.verdict
  bySeverity : Report.bySeverity ⟨q, .ofSimulation s'⟩ = Report.bySeverity ⟨p, .ofSimulation s⟩
  byRule : Report.byRule ⟨q, .ofSimulation s'⟩ = Report.byRule ⟨p, .ofSimulation s⟩
  rulesWithoutFindings : Report.rulesWithoutFindings ⟨q, .ofSimulation s'⟩ =
    Report.rulesWithoutFindings ⟨p, .ofSimulation s⟩

/-- Any rule can be replaced by its requirement and its prohibition. -/
theorem simulate_split {p q : Policy} {before after : List Rule} {rule : Rule} {contract : String}
    {s : Simulation} (hp : p.rules = before ++ rule :: after)
    (hq : q.rules = before ++ rule.requirement :: rule.prohibition :: after)
    (hs : p.simulate contract = .ok s) :
    ∃ s', q.simulate contract = .ok s' ∧ SameReport p q s s' := by
  obtain ⟨vs, hvs, hperm⟩ := evaluate_split hp hq (simulate_eq_ok_iff.mp hs).1
  have hids : distinct (q.rules.map (·.id)) = distinct (p.rules.map (·.id)) := by
    simp only [hp, hq, List.map_append, List.map_cons]
    exact distinct_again _ _ rule.id
  have hbyRule : Report.byRule ⟨q, .ofSimulation { s with violations := vs }⟩ =
      Report.byRule ⟨p, .ofSimulation s⟩ := Report.byRule_eq_of_perm hids hperm
  refine ⟨{ s with violations := vs }, simulate_of_perm hs rfl hvs hperm, ?_⟩
  exact {
    clausesAnalyzed := rfl
    violations := hperm
    riskScore := rfl
    verdict := rfl
    bySeverity := Report.bySeverity_eq_of_perm hperm
    byRule := hbyRule
    rulesWithoutFindings := by rw [Report.rulesWithoutFindings, hbyRule]; rfl }

def splitPaymentPolicy : Policy :=
  { paymentPolicy with rules := paymentPolicy.rules.flatMap fun r => [r.requirement, r.prohibition] }

theorem splitPaymentPolicy_simulates : ∃ s,
    paymentPolicy.simulate "Fees on demand.

Payment on demand." = .ok s ∧
    ∃ s', splitPaymentPolicy.simulate "Fees on demand.

Payment on demand." = .ok s' ∧
      SameReport paymentPolicy splitPaymentPolicy s s' := by
  have hbuilt : paymentPolicy.Built := .loaded (v := paymentPolicy.toJson) rfl
  obtain ⟨s, hs⟩ := exists_simulate_eq_ok hbuilt.sound "Fees on demand.

Payment on demand."
  have hrules : ∃ rule, paymentPolicy.rules = [] ++ rule :: [] ∧
      splitPaymentPolicy.rules = [] ++ rule.requirement :: rule.prohibition :: [] :=
    ⟨_, rfl, rfl⟩
  obtain ⟨rule, hwhole, hsplit⟩ := hrules
  exact ⟨s, hs, simulate_split hwhole hsplit hs⟩

end Policy

end ClauseAudit
