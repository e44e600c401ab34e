import ClauseAudit.Assessment.Simulation
import ClauseAudit.Proofs.Rule.Wire
import Mathlib.Algebra.Ring.Nat

/-!
# Simulations do not fail

Sound rules can be evaluated on any clauses. The score of a result is the sum of the weights of its
findings, up to one hundred, and the verdict is the one for this sum, since both thresholds lie
below the limit.
-/

namespace ClauseAudit

namespace Rule

/-- The patterns of all checks can be used. -/
def Usable (r : Rule) : Prop :=
  ∀ c, r.required = some c ∨ r.forbidden = some c →
    ∃ p, Literal.compile c.pattern c.flags = .ok p

theorem Sound.usable {r : Rule} (h : r.Sound) : r.Usable := by
  rintro c (hc | hc)
  · exact (h.required c hc).usable
  · exact (h.forbidden c hc).usable

private theorem exists_prepare_eq_ok {c : Option Check}
    (h : ∀ c', c = some c' → ∃ p, Literal.compile c'.pattern c'.flags = .ok p) :
    ∃ p, prepare c = .ok p := by
  cases c with
  | none => exact ⟨none, rfl⟩
  | some c =>
    obtain ⟨p, hp⟩ := h c rfl
    exact ⟨some p, by rw [prepare, hp]; rfl⟩

private theorem Usable.exists_evaluate_eq_ok {r : Rule} (h : r.Usable) (clauses : List Clause) :
    ∃ vs, r.evaluate clauses = .ok vs := by
  obtain ⟨required, hrequired⟩ := exists_prepare_eq_ok fun c hc => h c (.inl hc)
  obtain ⟨forbidden, hforbidden⟩ := exists_prepare_eq_ok fun c hc => h c (.inr hc)
  rw [evaluate]
  split
  · exact ⟨_, rfl⟩
  · rw [hrequired, hforbidden]
    exact ⟨_, rfl⟩

end Rule

namespace Simulation

/-- The weights of all findings, without a limit. -/
def total (s : Simulation) : Nat :=
  (s.violations.map fun v => v.severity.weight).foldl (· + ·) 0

/-- Score and verdict follow from the sum of the weights. -/
structure Scored (s : Simulation) : Prop where
  riskScore : s.riskScore = min 100 s.total
  highRisk : s.verdict = .highRisk ↔ 70 ≤ s.total
  review : s.verdict = .review ↔ 35 ≤ s.total ∧ s.total ≤ 69
  safe : s.verdict = .safe ↔ s.total < 35

end Simulation

namespace Verdict

/-- The three verdicts divide all scores between them. -/
theorem ofScore_eq_iff (n : Nat) (v : Verdict) : ofScore n = v ↔
    match v with
    | safe => n < 35
    | review => 35 ≤ n ∧ n ≤ 69
    | highRisk => 70 ≤ n := by
  have hhighRisk : (70 : Int) ≤ n ↔ 70 ≤ n := by omega
  have hthreshold : (35 : Int) ≤ n ↔ 35 ≤ n := by omega
  simp only [ofScore, hhighRisk, hthreshold]
  by_cases hhigh : 70 ≤ n
  · rw [if_pos hhigh]
    cases v <;> simp <;> omega
  · rw [if_neg hhigh]
    by_cases hreview : 35 ≤ n
    · rw [if_pos hreview]
      cases v <;> simp <;> omega
    · rw [if_neg hreview]
      cases v <;> simp <;> omega

end Verdict

theorem riskScore_eq_sum (xs : List Severity) :
    riskScore xs = min 100 (xs.map Severity.weight).sum := by
  rw [riskScore, maxRiskScore, List.sum_eq_foldl]

namespace Policy

theorem simulate_eq_ok_iff {p : Policy} {contract : String} {s : Simulation} :
    p.simulate contract = .ok s ↔ p.evaluate (Clause.segment contract) = .ok s.violations ∧
      s.clausesAnalyzed = (Clause.segment contract).length ∧
      s.riskScore = riskScore (s.violations.map (·.severity)) ∧
      s.verdict = .ofScore s.riskScore := by
  unfold simulate
  simp only [bind_eq_ok_iff, pure_eq_ok_iff]
  constructor
  · rintro ⟨vs, hvs, rfl⟩
    exact ⟨hvs, rfl, rfl, rfl⟩
  · rintro ⟨hvs, hclauses, hscore, hverdict⟩
    refine ⟨_, hvs, ?_⟩
    rw [← hclauses, ← hscore, ← hverdict]

theorem simulate_congr {p q : Policy} (h : p.rules = q.rules) (contract : String) :
    p.simulate contract = q.simulate contract := by
  rw [simulate, simulate, evaluate, evaluate, h]

theorem scored_of_simulate {p : Policy} {contract : String} {s : Simulation}
    (h : p.simulate contract = .ok s) : s.Scored := by
  obtain ⟨_, _, hscore, hverdict⟩ := simulate_eq_ok_iff.mp h
  have hmin : s.riskScore = min 100 s.total := by
    rw [hscore, ClauseAudit.riskScore, List.map_map]
    rfl
  rw [hmin] at hverdict
  constructor
  · exact hmin
  · rw [hverdict, Verdict.ofScore_eq_iff]
    simp only
    omega
  · rw [hverdict, Verdict.ofScore_eq_iff]
    simp only
    omega
  · rw [hverdict, Verdict.ofScore_eq_iff]
    simp only
    omega

theorem evaluate_eq_ok_iff {p : Policy} {clauses : List Clause} {vs : List Violation} :
    p.evaluate clauses = .ok vs ↔
      ∃ vss, List.Forall₂ (fun r vs => r.evaluate clauses = .ok vs) p.rules vss ∧
        vss.flatten = vs := by
  unfold evaluate
  simp only [bind_eq_ok_iff, mapM_eq_ok_iff, pure_eq_ok_iff]

theorem exists_simulate_of_evaluate {p : Policy} {contract : String} {vs : List Violation}
    (h : p.evaluate (Clause.segment contract) = .ok vs) :
    ∃ s, p.simulate contract = .ok s ∧ s.violations = vs :=
  ⟨{ clausesAnalyzed := (Clause.segment contract).length
     violations := vs
     riskScore := riskScore (vs.map (·.severity))
     verdict := .ofScore (riskScore (vs.map (·.severity))) },
    simulate_eq_ok_iff.mpr ⟨h, rfl, rfl, rfl⟩, rfl⟩

theorem exists_simulate_iff {p : Policy} {contract : String} :
    (∃ s, p.simulate contract = .ok s) ↔
      ∀ r ∈ p.rules, ∃ vs, r.evaluate (Clause.segment contract) = .ok vs := by
  constructor
  · rintro ⟨s, hs⟩
    obtain ⟨vss, hvss, _⟩ := evaluate_eq_ok_iff.mp (simulate_eq_ok_iff.mp hs).1
    exact forall₂_forall_right hvss.flip fun vs r hvs => ⟨vs, hvs⟩
  · intro h
    obtain ⟨vss, hvss⟩ := exists_mapM_eq_ok h
    have hevaluate : p.evaluate (Clause.segment contract) = .ok vss.flatten :=
      evaluate_eq_ok_iff.mpr ⟨vss, mapM_eq_ok_iff.mp hvss, rfl⟩
    obtain ⟨s, hs, _⟩ := exists_simulate_of_evaluate hevaluate
    exact ⟨s, hs⟩

/-- Every contract can be assessed with rules whose patterns can be used. -/
theorem exists_simulate_of_usable {p : Policy} (h : ∀ r ∈ p.rules, r.Usable) (contract : String) :
    ∃ s, p.simulate contract = .ok s :=
  exists_simulate_iff.mpr fun r hr => (h r hr).exists_evaluate_eq_ok _

theorem exists_simulate_eq_ok {p : Policy} (h : ∀ r ∈ p.rules, r.Sound) (contract : String) :
    ∃ s, p.simulate contract = .ok s :=
  exists_simulate_of_usable (fun r hr => (h r hr).usable) contract

end Policy

end ClauseAudit
