import ClauseAudit.Proofs.Language.Fault

/-!
# Faults at other lines

The number of a line takes part in nothing but the diagnostics of this line. A statement that is
taken up at another line leads to the same state or to the same fault there.
-/

namespace ClauseAudit.Language

def Failure.moved (line : Nat) : Failure → Failure
  | .diagnostic d => .diagnostic ⟨line, d.reason⟩
  | .overflow fault => .overflow fault

section Movable

variable {α β : Type}

/-- The computation has the same outcome at every line, up to the line of a diagnostic. -/
def Movable (x : Nat → Except Failure α) : Prop :=
  ∀ line line', (x line).mapError (Failure.moved line') = x line'

private theorem movable_ok (a : α) : Movable fun _ => .ok a := fun _ _ => rfl

private theorem movable_fail (reason : Reason) :
    Movable fun line => (fail line reason : Except Failure α) := fun _ _ => rfl

private theorem Movable.bind {x : Nat → Except Failure α} {g : α → Nat → Except Failure β}
    (hx : Movable x) (hg : ∀ a, Movable (g a)) :
    Movable fun line => x line >>= fun a => g a line := by
  intro line line'
  simp only [mapError_bind, hx line line', hg _ line line']

private theorem Movable.map {x : Nat → Except Failure α} (hx : Movable x) (g : α → β) :
    Movable fun line => x line >>= fun a => .ok (g a) :=
  hx.bind fun a => movable_ok (g a)

private theorem Movable.refused {c : Prop} [Decidable c] {reason : Reason}
    {g : Nat → α → Except Failure β} {x : Nat → Except Failure β} (hx : Movable x) :
    Movable fun line => if c then fail line reason >>= g line else x line := by
  intro line line'
  by_cases hc : c
  · simp only [if_pos hc]
    rfl
  · simp only [if_neg hc]
    exact hx line line'

end Movable

/-! ## Values -/

private theorem movable_readQuoted (raw : String) : Movable (readQuoted raw) := by
  intro line line'
  unfold readQuoted
  cases quoted? raw <;> rfl

private theorem movable_readSeverity (raw : String) : Movable (readSeverity raw) := by
  intro line line'
  unfold readSeverity
  simp only
  cases Severity.ofName? (Text.lower (Text.strip raw)) <;> rfl

private theorem movable_readCheck (raw : String) : Movable (readCheck raw) := by
  intro line line'
  unfold readCheck
  split
  · rfl
  · split
    · rfl
    · rfl
    · split <;> rfl

/-! ## Statements -/

namespace Draft

private theorem movable_add (d : Draft) (keyword : Keyword) (argument : String) :
    Movable (d.add keyword argument) := by
  cases huses : d.uses keyword with
  | true =>
    have hadd : d.add keyword argument = fun line => fail line (.duplicate keyword d.id) :=
      funext (add_of_uses huses argument)
    rw [hadd]
    exact movable_fail _
  | false =>
    have hadd : d.add keyword argument = fun line => d.setFirst argument line keyword :=
      funext (add_of_not_uses huses argument)
    rw [hadd]
    cases keyword with
    | clauseType =>
      intro line line'
      simp only [setFirst]
      cases argument.isEmpty <;> rfl
    | require => exact (movable_readCheck argument).map _
    | forbid => exact (movable_readCheck argument).map _
    | severity => exact (movable_readSeverity argument).map _
    | remediation => exact (movable_readQuoted argument).map _

private theorem movable_finish (d : Draft) : Movable d.finish := by
  intro line line'
  unfold finish
  cases d.clauseType with
  | none => rfl
  | some clauseType =>
    cases d.required.isNone && d.forbidden.isNone with
    | true => rfl
    | false => cases d.severity <;> rfl

end Draft

namespace State

theorem movable_apply (s : State) (statement : Statement) :
    Movable fun line => s.apply line statement := by
  unfold apply
  cases statement with
  | policy argument => exact ((movable_readQuoted argument).map _).refused
  | rule argument =>
    cases s.draft with
    | some d => exact movable_fail _
    | none => exact (movable_ok _).refused
  | field keyword argument =>
    cases s.draft with
    | none => exact movable_fail _
    | some d => exact (d.movable_add keyword argument).map _
  | close =>
    cases s.draft with
    | none => exact movable_fail _
    | some d => exact d.movable_finish.map _
  | other text =>
    cases s.draft with
    | none => exact movable_fail _
    | some d => exact movable_fail _

theorem apply_eq_error_at {s : State} {statement : Statement} {line : Nat} {f : Failure}
    (h : s.apply line statement = .error f) (line' : Nat) :
    s.apply line' statement = .error (f.moved line') := by
  have hmoved := s.movable_apply statement line line'
  simp only [h] at hmoved
  exact hmoved.symm

end State

end ClauseAudit.Language
