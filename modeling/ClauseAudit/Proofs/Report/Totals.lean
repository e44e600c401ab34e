import ClauseAudit.Proofs.Aligned
import ClauseAudit.Proofs.Assessment.Order

/-!
# Reports add up

Every finding carries the identifier and the severity of its rule. So the counts of a report, by
severity and by identifier, take in all findings, and the weights of the counts give the score
again.
-/

namespace ClauseAudit

namespace Rule

variable {r : Rule}

private theorem ruleId_of_mem_absence {v : Violation} (h : v ∈ r.absence) : v.ruleId = r.id := by
  rw [absence] at h
  split at h
  · rw [List.mem_singleton.mp h]
    rfl
  · cases h

private theorem ruleId_of_mem_judge {required forbidden : Option Regex.Pattern} {text : String}
    {v : Violation} (h : v ∈ r.judge required forbidden text) : v.ruleId = r.id := by
  unfold judge at h
  rw [List.mem_append] at h
  rcases h with h | h
  · cases required with
    | none => cases h
    | some p =>
      simp only at h
      split at h
      · cases h
      · rw [List.mem_singleton.mp h]
        rfl
  · cases forbidden with
    | none => cases h
    | some p =>
      simp only at h
      split at h
      · rw [List.mem_singleton.mp h]
        rfl
      · cases h

private theorem Finds.ruleId_eq {texts : List String} {vs : List Violation} (h : r.Finds texts vs) :
    ∀ v ∈ vs, v.ruleId = r.id := by
  intro v hv
  cases h with
  | absent _ => exact ruleId_of_mem_absence hv
  | judged _ _ _ =>
    obtain ⟨text, _, hjudge⟩ := List.mem_flatMap.mp hv
    exact ruleId_of_mem_judge hjudge

private theorem ruleId_of_evaluate {clauses : List Clause} {vs : List Violation}
    (h : r.evaluate clauses = .ok vs) : ∀ v ∈ vs, v.ruleId = r.id :=
  (evaluate_eq_ok_iff.mp h).ruleId_eq

end Rule

namespace Policy

/-- The policy with only the rules that share an identifier. -/
def sharing (p : Policy) (id : String) : Policy :=
  { p with rules := p.rules.filter (·.id == id) }

section Evaluation

variable {p : Policy} {clauses : List Clause} {vs : List Violation}

private theorem exists_rule_of_mem (h : p.evaluate clauses = .ok vs) :
    ∀ v ∈ vs, ∃ r ∈ p.rules, v.ruleId = r.id := by
  obtain ⟨vss, hvss, rfl⟩ := evaluate_eq_ok_iff.mp h
  have hrules : ∀ ws ∈ vss, ∃ r ∈ p.rules, r.evaluate clauses = .ok ws :=
    forall₂_forall_right ((List.forall₂_and_left _ _).mpr ⟨fun _ hr => hr, hvss⟩)
      fun r _ h => ⟨r, h.1, h.2⟩
  intro v hv
  obtain ⟨ws, hws, hmem⟩ := List.mem_flatten.mp hv
  obtain ⟨r, hr, hevaluate⟩ := hrules ws hws
  exact ⟨r, hr, Rule.ruleId_of_evaluate hevaluate v hmem⟩

/-- The rules that share an identifier find the findings that carry it. -/
theorem evaluate_sharing (h : p.evaluate clauses = .ok vs) (id : String) :
    (p.sharing id).evaluate clauses = .ok (vs.filter (·.ruleId == id)) := by
  obtain ⟨vss, hvss, rfl⟩ := evaluate_eq_ok_iff.mp h
  rw [evaluate_eq_ok_iff, sharing]
  clear h
  generalize p.rules = rules at hvss
  induction hvss with
  | nil => exact ⟨[], .nil, rfl⟩
  | @cons r ws rules vss hr _ ih =>
    obtain ⟨wss, hwss, hflatten⟩ := ih
    have hruleId := Rule.ruleId_of_evaluate hr
    rw [List.flatten_cons, List.filter_append]
    by_cases hid : r.id = id
    · have hall : ws.filter (·.ruleId == id) = ws := by
        rw [List.filter_eq_self]
        intro v hv
        simp [hruleId v hv, hid]
      refine ⟨ws :: wss, ?_, by rw [hall, ← hflatten, List.flatten_cons]⟩
      simp only [List.filter_cons, hid, beq_self_eq_true, if_true]
      exact .cons hr hwss
    · have hnone : ws.filter (·.ruleId == id) = [] := by
        rw [List.filter_eq_nil_iff]
        intro v hv
        simp [hruleId v hv, hid]
      refine ⟨wss, ?_, by rw [hnone, ← hflatten, List.nil_append]⟩
      simp only [List.filter_cons, beq_eq_false_iff_ne.mpr hid, Bool.false_eq_true, if_false]
      exact hwss

private theorem evaluate_eq_ok_nil_iff :
    p.evaluate clauses = .ok [] ↔ ∀ r ∈ p.rules, r.evaluate clauses = .ok [] := by
  rw [evaluate_eq_ok_iff]
  constructor
  · rintro ⟨vss, hvss, hnil⟩
    have hboth := (List.forall₂_and_left _ _).mpr ⟨List.flatten_eq_nil_iff.mp hnil, hvss.flip⟩
    exact forall₂_forall_right hboth fun vs r h => h.1 ▸ h.2
  · intro h
    refine ⟨p.rules.map fun _ => [], ?_, by simp⟩
    exact List.forall₂_map_right_iff.mpr (List.forall₂_same.mpr h)

theorem mem_distinct_of_mem (h : p.evaluate clauses = .ok vs) :
    ∀ v ∈ vs, v.ruleId ∈ distinct (p.rules.map (·.id)) := by
  intro v hv
  obtain ⟨r, hr, hruleId⟩ := exists_rule_of_mem h v hv
  exact mem_distinct_iff.mpr (List.mem_map.mpr ⟨r, hr, hruleId.symm⟩)

private theorem countP_ruleId_eq_zero_iff (h : p.evaluate clauses = .ok vs) (id : String) :
    vs.countP (·.ruleId == id) = 0 ↔
      ∀ r ∈ p.rules, r.id = id → r.evaluate clauses = .ok [] := by
  have hrules : (∀ r ∈ p.rules, r.id = id → r.evaluate clauses = .ok []) ↔
      (p.sharing id).evaluate clauses = .ok [] := by
    simp [evaluate_eq_ok_nil_iff, sharing]
  rw [hrules, evaluate_sharing h, List.countP_eq_length_filter, List.length_eq_zero_iff]
  exact ⟨congrArg Except.ok, Except.ok.inj⟩

end Evaluation

/-- Identifiers once each, in the order in which the rules of the policy have them first. -/
def InOrder (p : Policy) (ids : List String) : Prop :=
  ids.Pairwise fun a b => (p.rules.map (·.id)).idxOf a < (p.rules.map (·.id)).idxOf b

end Policy

/-- The counts of a report are those of the findings in a contract. -/
structure Report.Consistent (r : Report) (contract : String) : Prop where
  bySeverity_sum : (r.bySeverity.map (·.2)).sum = r.record.violations.length
  byRule_sum : (r.byRule.map (·.2)).sum = r.record.violations.length
  ids : ∀ id, id ∈ r.byRule.map (·.1) ↔ ∃ rule ∈ r.policy.rules, rule.id = id
  ids_inOrder : r.policy.InOrder (r.byRule.map (·.1))
  counts : ∀ c ∈ r.byRule, ∃ t, (r.policy.sharing c.1).simulate contract = .ok t ∧
    c.2 = t.violations.length
  withoutFindings : ∀ id, id ∈ r.rulesWithoutFindings ↔ (∃ rule ∈ r.policy.rules, rule.id = id) ∧
    ∀ rule ∈ r.policy.rules, rule.id = id → rule.evaluate (Clause.segment contract) = .ok []
  withoutFindings_inOrder : r.policy.InOrder r.rulesWithoutFindings
  riskScore : r.record.riskScore =
    (min 100 (r.bySeverity.map fun c => c.1.weight * c.2).sum : Nat)

namespace Report

private theorem rulesWithoutFindings_sublist (r : Report) :
    r.rulesWithoutFindings.Sublist (r.byRule.map (·.1)) :=
  List.filter_sublist.map _

theorem mem_rulesWithoutFindings_iff {r : Report} {id : String} :
    id ∈ r.rulesWithoutFindings ↔ (∃ rule ∈ r.policy.rules, rule.id = id) ∧
      r.record.violations.countP (·.ruleId == id) = 0 := by
  have hids : id ∈ distinct (r.policy.rules.map (·.id)) ↔ ∃ rule ∈ r.policy.rules, rule.id = id :=
    mem_distinct_iff.trans List.mem_map
  rw [← hids, rulesWithoutFindings, byRule]
  constructor
  · intro h
    obtain ⟨c, hc, rfl⟩ := List.mem_map.mp h
    obtain ⟨hmem, hzero⟩ := List.mem_filter.mp hc
    obtain ⟨id, hid, rfl⟩ := List.mem_map.mp hmem
    exact ⟨hid, by simpa using hzero⟩
  · rintro ⟨hid, hzero⟩
    refine List.mem_map.mpr ⟨(id, 0), List.mem_filter.mpr ⟨?_, rfl⟩, rfl⟩
    exact List.mem_map.mpr ⟨id, hid, by rw [hzero]⟩

end Report

namespace Policy

/-- The counts in a report on an assessment are those of its findings, and none is left out. -/
theorem report_consistent {p : Policy} {contract : String} {s : Simulation}
    (h : p.simulate contract = .ok s) :
    Report.Consistent ⟨p, .ofSimulation s⟩ contract := by
  obtain ⟨hevaluate, _, hscore, _⟩ := simulate_eq_ok_iff.mp h
  have hseverity : ∀ v ∈ s.violations, v.severity ∈ Severity.all := fun v _ => v.severity.mem_all
  exact {
    bySeverity_sum := by
      rw [Report.bySeverity, List.map_map]
      exact sum_countP Severity.nodup_all _ hseverity
    byRule_sum := by
      rw [Report.byRule, List.map_map]
      exact sum_countP (nodup_distinct _) _ (mem_distinct_of_mem hevaluate)
    ids := fun id => by
      rw [Report.map_fst_byRule, mem_distinct_iff, List.mem_map]
    ids_inOrder := by
      rw [Report.map_fst_byRule]
      exact distinct_pairwise _
    counts := fun c hc => by
      obtain ⟨id, _, rfl⟩ := List.mem_map.mp hc
      obtain ⟨t, ht, hviolations⟩ := exists_simulate_of_evaluate (evaluate_sharing hevaluate id)
      exact ⟨t, ht, by rw [hviolations, ← List.countP_eq_length_filter]; rfl⟩
    withoutFindings := fun id => Report.mem_rulesWithoutFindings_iff.trans
      (and_congr_right fun _ => countP_ruleId_eq_zero_iff hevaluate id)
    withoutFindings_inOrder := by
      have hsub := Report.rulesWithoutFindings_sublist ⟨p, .ofSimulation s⟩
      rw [Report.map_fst_byRule] at hsub
      exact (distinct_pairwise _).sublist hsub
    riskScore := by
      have hsum :=
        sum_weight_mul_countP Severity.nodup_all Violation.severity Severity.weight hseverity
      rw [Report.bySeverity, List.map_map]
      show (s.riskScore : Int) = (min 100 (Severity.all.map fun k =>
        k.weight * s.violations.countP (·.severity == k)).sum : Nat)
      rw [hscore, riskScore_eq_sum, hsum, List.map_map]
      rfl }

def crowdedPolicy : Policy :=
  { exitPolicy with rules := exitPolicy.rules ++ paymentPolicy.rules }

theorem crowdedPolicy_consistent : ∃ s,
    crowdedPolicy.simulate "Payment on demand.\n\nTermination with notice." = .ok s ∧
    Report.Consistent ⟨crowdedPolicy, .ofSimulation s⟩
      "Payment on demand.\n\nTermination with notice." := by
  have hbuilt : crowdedPolicy.Built := .loaded (v := crowdedPolicy.toJson) rfl
  obtain ⟨s, hs⟩ :=
    exists_simulate_eq_ok hbuilt.sound "Payment on demand.\n\nTermination with notice."
  exact ⟨s, hs, report_consistent hs⟩

end Policy

end ClauseAudit
