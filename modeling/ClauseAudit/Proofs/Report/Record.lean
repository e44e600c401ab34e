import ClauseAudit.Proofs.Assessment.Simulation
import ClauseAudit.Proofs.Language.RoundTrip
import ClauseAudit.Report.Summary

/-!
# Reports do not fail

Reports look up the weight of every finding by the name of its severity, and put the findings into
a table with fixed columns. Neither can go wrong for the result of a simulation.
-/

namespace ClauseAudit

private theorem Table.ofRows_eq_ok {columns : List String} {rows : List (List Json.Value)}
    (h : ∀ r ∈ rows, r.length = columns.length) :
    ofRows columns rows = .ok { columns, rows } := by
  have hwidest (n : Nat) : rows.foldl (fun n r => max n r.length) n =
      if rows = [] then n else max n columns.length := by
    induction rows generalizing n with
    | nil => rfl
    | cons r rows ih =>
      obtain ⟨hr, hrows⟩ := List.forall_mem_cons.mp h
      rw [List.foldl_cons, ih hrows, hr, if_neg (List.cons_ne_nil r rows)]
      split
      · rfl
      · rw [max_assoc, max_self]
  cases rows with
  | nil => rfl
  | cons r rows =>
    have hmax : (r :: rows).foldl (fun n r => max n r.length) 0 = columns.length := by
      rw [hwidest, if_neg (List.cons_ne_nil r rows), Nat.zero_max]
    have hpad : (r :: rows).map
        (fun r => r ++ List.replicate (columns.length - r.length) Json.Value.null) =
        r :: rows := by
      conv_rhs => rw [← List.map_id (r :: rows)]
      apply List.map_congr_left
      intro r' hr'
      simp [h r' hr']
    unfold ofRows
    simp only [hmax, hpad, beq_self_eq_true, Bool.or_true, if_true]

namespace Violation

private theorem ofRows_cells (vs : List Violation) :
    Table.ofRows columns (vs.map cells) = .ok (table vs) := by
  apply Table.ofRows_eq_ok
  intro r hr
  obtain ⟨v, _, rfl⟩ := List.mem_map.mp hr
  rfl

end Violation

namespace Record

theorem violation_toJson (v : Violation) : violation v.toJson = .ok v := by
  have hseverity : text v.toJson "severity" = v.severity.name := rfl
  rw [violation, hseverity, Severity.ofName_name]
  rfl

theorem ofJson_toJson (s : Simulation) : ofJson s.toJson = .ok (ofSimulation s) := by
  have hviolations : (s.violations.map Violation.toJson).mapM violation = .ok s.violations := by
    rw [mapM_eq_ok_iff, List.forall₂_map_left_iff]
    exact List.forall₂_same.mpr fun v _ => violation_toJson v
  have hitems : ((s.toJson.get? "violations").bind (·.arr?)).getD [] =
      s.violations.map Violation.toJson := rfl
  rw [ofJson, hitems, hviolations]
  rfl

end Record

/-- Reports can be made on the result: the severity of every finding is found by its name, the
findings fit the columns of their table, and the result is one that reports take. -/
structure Simulation.Reportable (s : Simulation) : Prop where
  severities : ∀ v ∈ s.violations, Severity.ofName v.severity.name = .ok v.severity
  table : Table.ofRows Violation.columns (s.violations.map Violation.cells) =
    .ok (Violation.table s.violations)
  record : Record.ofJson s.toJson = .ok (.ofSimulation s)

private theorem Simulation.reportable (s : Simulation) : s.Reportable where
  severities := fun v _ => Severity.ofName_name v.severity
  table := Violation.ofRows_cells s.violations
  record := Record.ofJson_toJson s

namespace Policy

/-- A policy that was compiled from a text or loaded from its wire form. -/
inductive Built (p : Policy) : Prop
  | compiled {text now : String} (h : Language.compile text now = .ok p)
  | loaded {v : Json.Value} (h : ofJson v = .ok p)

theorem Built.sound {p : Policy} (h : p.Built) : ∀ r ∈ p.rules, r.Sound := by
  cases h with
  | compiled h => exact Language.sound_of_compile h
  | loaded h => exact sound_of_ofJson h

/-- However a policy was made, every contract can be assessed with it and reported on. -/
theorem Built.simulate_eq_ok {p : Policy} (h : p.Built) (contract : String) :
    ∃ s, p.simulate contract = .ok s ∧ (0 ≤ s.riskScore ∧ s.riskScore ≤ 100) ∧ s.Scored ∧
      s.Reportable := by
  obtain ⟨s, hs⟩ := exists_simulate_eq_ok h.sound contract
  have hscored := scored_of_simulate hs
  have hmax : s.riskScore ≤ 100 := by
    rw [hscored.riskScore]
    exact Nat.min_le_left 100 s.total
  exact ⟨s, hs, ⟨Nat.zero_le _, hmax⟩, hscored, s.reportable⟩

/-- Payments must be made within days and never on demand. -/
def paymentPolicy : Policy :=
  { name := "Payments"
    compiledAt := ""
    rules := [{ id := "pay", clauseType := "PAYMENT", required := some ⟨"days", "i"⟩,
                forbidden := some ⟨"demand", ""⟩, severity := .critical,
                remediation := Rule.defaultRemediation }] }

theorem paymentPolicy_simulates : paymentPolicy.Built ∧
    ∃ s, paymentPolicy.simulate "Payment on demand." = .ok s ∧
      (0 ≤ s.riskScore ∧ s.riskScore ≤ 100) ∧ s.Scored ∧ s.Reportable := by
  have hbuilt : paymentPolicy.Built := .loaded (v := paymentPolicy.toJson) rfl
  exact ⟨hbuilt, hbuilt.simulate_eq_ok "Payment on demand."⟩

end Policy

end ClauseAudit
