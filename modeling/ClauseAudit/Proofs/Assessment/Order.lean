import ClauseAudit.Proofs.Assessment.Evaluation
import ClauseAudit.Proofs.Report.Counts
import ClauseAudit.Proofs.Report.Record
import Mathlib.Data.List.Perm.Basic

/-!
# Order of rules and clauses

Rules do not look at each other, and each of them looks at the clauses of its type one by one. So
the order of rules and clauses decides the order of the findings and nothing else: score, verdict
and counts take the findings together.
-/

namespace ClauseAudit

theorem riskScore_eq_of_perm {severities severities' : List Severity}
    (h : severities'.Perm severities) : riskScore severities' = riskScore severities := by
  rw [riskScore, riskScore, (h.map _).foldl_eq]

theorem Rule.texts_perm {contract contract' : String}
    (h : (Clause.blocks contract').Perm (Clause.blocks contract)) (r : Rule) :
    (r.texts (Clause.segment contract')).Perm (r.texts (Clause.segment contract)) := by
  rw [texts_segment, texts_segment]
  exact h.filter _

namespace Policy

theorem evaluate_perm {p q : Policy} {clauses clauses' : List Clause} {vs : List Violation}
    (hrules : q.rules.Perm p.rules) (htexts : ∀ r : Rule, (r.texts clauses').Perm (r.texts clauses))
    (h : p.evaluate clauses = .ok vs) : ∃ vs', q.evaluate clauses' = .ok vs' ∧ vs'.Perm vs := by
  have hrule (r : Rule) (ws : List Violation) (hws : r.evaluate clauses = .ok ws) :
      ∃ us, r.evaluate clauses' = .ok us ∧ us.Perm ws := by
    obtain ⟨us, hus, hperm⟩ := (Rule.evaluate_eq_ok_iff.mp hws).perm (htexts r)
    exact ⟨us, Rule.evaluate_eq_ok_iff.mpr hus, hperm⟩
  obtain ⟨vss, hvss, rfl⟩ := evaluate_eq_ok_iff.mp h
  -- The findings of the rules are put in order first, and then those of each rule.
  obtain ⟨wss, hwss, hacross⟩ := List.perm_comp_forall₂ hrules hvss
  obtain ⟨uss, huss, hwithin⟩ := exists_forall₂_between hwss hrule
  exact ⟨uss.flatten, evaluate_eq_ok_iff.mpr ⟨uss, huss, rfl⟩,
    (List.Perm.flatten_congr hwithin).trans hacross.flatten⟩

/-- Score and verdict take the findings together, so other findings in another order keep them. -/
theorem simulate_of_perm {p q : Policy} {contract contract' : String} {s : Simulation}
    {vs : List Violation} (hs : p.simulate contract = .ok s)
    (hlength : (Clause.segment contract').length = (Clause.segment contract).length)
    (hvs : q.evaluate (Clause.segment contract') = .ok vs) (hperm : vs.Perm s.violations) :
    q.simulate contract' = .ok { s with violations := vs } := by
  obtain ⟨_, hclauses, hscore, hverdict⟩ := simulate_eq_ok_iff.mp hs
  refine simulate_eq_ok_iff.mpr ⟨hvs, ?_, ?_, hverdict⟩
  · rw [hclauses, hlength]
  · rw [hscore, riskScore_eq_of_perm (hperm.map _)]

/-- Assessments with two policies, and the counts reported on them, that differ in order only. -/
structure SameButOrder (p q : Policy) (s s' : Simulation) : Prop where
  clausesAnalyzed : s'.clausesAnalyzed = s.clausesAnalyzed
  violations : s'.violations.Perm s.violations
  riskScore : s'.riskScore = s.riskScore
  verdict : s'.verdict = s.verdict
  bySeverity : Report.bySeverity ⟨q, .ofSimulation s'⟩ = Report.bySeverity ⟨p, .ofSimulation s⟩
  byRule : (Report.byRule ⟨q, .ofSimulation s'⟩).Perm (Report.byRule ⟨p, .ofSimulation s⟩)

private theorem exists_sameButOrder {p q : Policy} {contract contract' : String} {s : Simulation}
    (hrules : q.rules.Perm p.rules)
    (hblocks : (Clause.blocks contract').Perm (Clause.blocks contract))
    (hs : p.simulate contract = .ok s) :
    ∃ s', q.simulate contract' = .ok s' ∧ SameButOrder p q s s' := by
  obtain ⟨vs, hvs, hperm⟩ :=
    evaluate_perm hrules (Rule.texts_perm hblocks) (simulate_eq_ok_iff.mp hs).1
  have hlength : (Clause.segment contract').length = (Clause.segment contract).length := by
    rw [Clause.length_segment, Clause.length_segment, hblocks.length_eq]
  exact ⟨{ s with violations := vs }, simulate_of_perm hs hlength hvs hperm, {
    clausesAnalyzed := rfl
    violations := hperm
    riskScore := rfl
    verdict := rfl
    bySeverity := Report.bySeverity_eq_of_perm hperm
    byRule := Report.byRule_perm hrules hperm }⟩

/-- Rules and paragraphs can be put in any order. -/
theorem simulate_reordered {p q : Policy} {texts texts' : List String}
    {contract contract' : String} {s : Simulation} (hrules : q.rules.Perm p.rules)
    (htexts : ∀ text ∈ texts, Text.IsParagraph text) (hperm : texts'.Perm texts)
    (hcontract : Clause.Spaced texts contract) (hcontract' : Clause.Spaced texts' contract')
    (hs : p.simulate contract = .ok s) :
    ∃ s', q.simulate contract' = .ok s' ∧ SameButOrder p q s s' := by
  have htexts' : ∀ text ∈ texts', Text.IsParagraph text :=
    fun text htext => htexts text (hperm.mem_iff.mp htext)
  have hblocks : (Clause.blocks contract').Perm (Clause.blocks contract) := by
    rw [hcontract.blocks_eq htexts, hcontract'.blocks_eq htexts']
    exact hperm
  exact exists_sameButOrder hrules hblocks hs

def exitPolicy : Policy :=
  { paymentPolicy with
    rules := { id := "exit", clauseType := "TERMINATION", required := some ⟨"notice", ""⟩,
               forbidden := none, severity := .medium, remediation := Rule.defaultRemediation } ::
      paymentPolicy.rules }

theorem exitPolicy_reordered : ∃ s,
    exitPolicy.simulate "Payment on demand.\n\nTermination at will." = .ok s ∧
    ∃ s', { exitPolicy with rules := exitPolicy.rules.reverse }.simulate
        "Termination at will.\n \nPayment on demand." = .ok s' ∧
      SameButOrder exitPolicy { exitPolicy with rules := exitPolicy.rules.reverse } s s' := by
  have hbuilt : exitPolicy.Built := .loaded (v := exitPolicy.toJson) rfl
  obtain ⟨s, hs⟩ :=
    exists_simulate_eq_ok hbuilt.sound "Payment on demand.\n\nTermination at will."
  have hpayment : Text.IsParagraph "Payment on demand." :=
    ⟨by decide, by decide, Text.unspaced_of_notMem (by decide)⟩
  have htermination : Text.IsParagraph "Termination at will." :=
    ⟨by decide, by decide, Text.unspaced_of_notMem (by decide)⟩
  have htexts : ∀ text ∈ ["Payment on demand.", "Termination at will."], Text.IsParagraph text := by
    simp [hpayment, htermination]
  have hgap : ∀ c ∈ " ".toList, Text.isBlank c = true := List.forall_mem_singleton.mpr (by decide)
  have hcontract' : Clause.Spaced ["Termination at will.", "Payment on demand."]
      "Termination at will.\n \nPayment on demand." :=
    .cons "Termination at will." " " (List.cons_ne_nil _ _) hgap (.single _)
  exact ⟨s, hs, simulate_reordered (List.reverse_perm _) htexts (.swap _ _ [])
    (Clause.spaced_intercalate _) hcontract' hs⟩

end Policy

end ClauseAudit
