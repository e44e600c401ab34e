import ClauseAudit.Proofs.Assessment.Evaluation
import ClauseAudit.Proofs.Report.Record

/-!
# Contracts put together

Two contracts with a blank line between them have the clauses of both. A rule finds in them what it
finds in the one and then what it finds in the other. A missing clause of its type is found only
when neither has one, and then only once.
-/

namespace ClauseAudit

/-- Two contracts with a blank line between them. -/
def joinContracts (a b : String) : String := a ++ "\n\n" ++ b

private theorem blocks_joinContracts (a b : String) :
    Clause.blocks (joinContracts a b) = Clause.blocks a ++ Clause.blocks b := by
  have hgap : joinContracts a b = a ++ "\n" ++ "" ++ "\n" ++ b := by
    simp [joinContracts, ← String.toList_inj]
  rw [hgap]
  exact Clause.blocks_append (by simp) a b

/-- What a rule finds in two contracts, and in both of them together. -/
structure Rule.Composes (r : Rule) (a b : String) (va vb vs : List Violation) : Prop where
  first : r.evaluate (Clause.segment a) = .ok va
  second : r.evaluate (Clause.segment b) = .ok vb
  together : r.evaluate (Clause.segment (joinContracts a b)) = .ok vs
  both : r.Applies a → r.Applies b → vs = va ++ vb
  onlyFirst : r.Applies a → ¬r.Applies b → vs = va
  onlySecond : ¬r.Applies a → r.Applies b → vs = vb
  neither : ¬r.Applies a → ¬r.Applies b → vs = va ∧ va = vb

private theorem Rule.exists_composes {r : Rule} {a b : String} {va vb : List Violation}
    (ha : r.evaluate (Clause.segment a) = .ok va) (hb : r.evaluate (Clause.segment b) = .ok vb) :
    ∃ vs, r.Composes a b va vb vs := by
  have htexts : r.texts (Clause.segment (joinContracts a b)) =
      r.texts (Clause.segment a) ++ r.texts (Clause.segment b) := by
    rw [texts_segment, texts_segment, texts_segment, blocks_joinContracts, List.filter_append]
  obtain ⟨vs, hvs, hboth, hfirst, hsecond⟩ :=
    (evaluate_eq_ok_iff.mp ha).exists_append (evaluate_eq_ok_iff.mp hb)
  rw [← htexts, ← evaluate_eq_ok_iff] at hvs
  rw [ne_eq, ne_eq, texts_eq_nil_iff, texts_eq_nil_iff, not_not, not_not] at hboth
  rw [texts_eq_nil_iff] at hfirst hsecond
  refine ⟨vs, ha, hb, hvs, hboth, fun _ => hfirst, fun hnot _ => hsecond hnot, ?_⟩
  intro hnotA hnotB
  exact ⟨hfirst hnotB, (hfirst hnotB).symm.trans (hsecond hnotA)⟩

namespace Policy

/-- Contracts that can be assessed one by one can be assessed together, and rule by rule the
findings are those in the contracts that have a clause of the rule's type. -/
theorem simulate_joinContracts {p : Policy} {a b : String} {sa sb : Simulation}
    (ha : p.simulate a = .ok sa) (hb : p.simulate b = .ok sb) :
    ∃ s, p.simulate (joinContracts a b) = .ok s ∧
      s.clausesAnalyzed = sa.clausesAnalyzed + sb.clausesAnalyzed ∧
      ∀ r ∈ p.rules, ∃ va vb vs, r.Composes a b va vb vs := by
  have hrules : ∀ r ∈ p.rules, ∃ va vb vs, r.Composes a b va vb vs := by
    intro r hr
    obtain ⟨va, hva⟩ := exists_simulate_iff.mp ⟨sa, ha⟩ r hr
    obtain ⟨vb, hvb⟩ := exists_simulate_iff.mp ⟨sb, hb⟩ r hr
    exact ⟨va, vb, Rule.exists_composes hva hvb⟩
  have hevaluate : ∀ r ∈ p.rules, ∃ vs,
      r.evaluate (Clause.segment (joinContracts a b)) = .ok vs := by
    intro r hr
    obtain ⟨_, _, vs, h⟩ := hrules r hr
    exact ⟨vs, h.together⟩
  obtain ⟨s, hs⟩ := exists_simulate_iff.mpr hevaluate
  refine ⟨s, hs, ?_, hrules⟩
  rw [(simulate_eq_ok_iff.mp hs).2.1, (simulate_eq_ok_iff.mp ha).2.1,
    (simulate_eq_ok_iff.mp hb).2.1, Clause.length_segment, Clause.length_segment,
    Clause.length_segment, blocks_joinContracts, List.length_append]

theorem paymentPolicy_joins : ∃ sa sb,
    paymentPolicy.simulate "Payment on demand.\n \n" = .ok sa ∧
    paymentPolicy.simulate "\t\nTermination for cause." = .ok sb ∧
    ∃ s, paymentPolicy.simulate
        (joinContracts "Payment on demand.\n \n" "\t\nTermination for cause.") = .ok s ∧
      s.clausesAnalyzed = sa.clausesAnalyzed + sb.clausesAnalyzed ∧
      ∀ r ∈ paymentPolicy.rules, ∃ va vb vs,
        r.Composes "Payment on demand.\n \n" "\t\nTermination for cause." va vb vs := by
  have hbuilt : paymentPolicy.Built := .loaded (v := paymentPolicy.toJson) rfl
  obtain ⟨sa, ha⟩ := exists_simulate_eq_ok hbuilt.sound "Payment on demand.\n \n"
  obtain ⟨sb, hb⟩ := exists_simulate_eq_ok hbuilt.sound "\t\nTermination for cause."
  exact ⟨sa, sb, ha, hb, simulate_joinContracts ha hb⟩

end Policy

end ClauseAudit
