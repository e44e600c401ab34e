import ClauseAudit.Rule.Severity
import ClauseAudit.Text.Case

/-!
# Names of severities

Every severity is found under its own name, and under no other.
-/

namespace ClauseAudit.Severity

theorem mem_all (s : Severity) : s ∈ all := by
  cases s <;> decide

theorem nodup_all : all.Nodup := by
  decide

theorem name_injective {s t : Severity} (h : s.name = t.name) : s = t := by
  cases s <;> cases t <;> first | rfl | simp [name] at h

@[simp] theorem ofName?_name (s : Severity) : ofName? s.name = some s := by
  cases s <;> decide

theorem ofName?_eq_some_iff (text : String) (s : Severity) :
    ofName? text = some s ↔ text = s.name := by
  constructor
  · intro h
    have hname := List.find?_some h
    exact (beq_iff_eq.mp hname).symm
  · rintro rfl
    exact ofName?_name s

@[simp] theorem ofName_name (s : Severity) : ofName s.name = .ok s := by
  rw [ofName, ofName?_name]

@[simp] theorem lower_name (s : Severity) : Text.lower s.name = s.name := by
  cases s <;> decide

end ClauseAudit.Severity
