import ClauseAudit.Proofs.Language.Step
import ClauseAudit.Proofs.Text.Lines

/-!
# Where a text is refused

A text is refused at its first line that cannot be taken up, or after the last one. A fault at a
line is a diagnostic of this line, except when the line gives a pattern with a number over the
limit of the pattern language: such a fault carries no line at all.
-/

namespace ClauseAudit.Language

/-- The reasons that are found only after the last line. -/
def Reason.isFinal : Reason → Bool
  | .unclosed _ => true
  | .noRules => true
  | _ => false

/-! ## Numbers over the limit -/

/-- The argument is a literal whose pattern has a number over the limit. -/
def Overflows (argument : String) (fault : LiteralFault) : Prop :=
  ∃ pattern flags, Literal.split? argument = some (pattern, flags) ∧
    Literal.compile pattern flags = .error fault ∧ fault.isOverflow = true

/-- The first statement of a keyword whose argument is a literal with such a number. -/
inductive Draft.Overflows (d : Draft) : Keyword → String → LiteralFault → Prop
  | require {argument : String} {fault : LiteralFault} (unset : d.required = none)
      (literal : Language.Overflows argument fault) : Overflows d .require argument fault
  | forbid {argument : String} {fault : LiteralFault} (unset : d.forbidden = none)
      (literal : Language.Overflows argument fault) : Overflows d .forbid argument fault

/-- A statement of the open block whose argument is a literal with such a number. -/
inductive State.Overflows (s : State) : Statement → LiteralFault → Prop
  | field {d : Draft} {keyword : Keyword} {argument : String} {fault : LiteralFault}
      (isOpen : s.draft = some d) (value : d.Overflows keyword argument fault) :
      Overflows s (.field keyword argument) fault

/-! ## Faults of one line -/

/-- A fault of the line: a diagnostic for a reason that is found before the end, or one of the
given numbers over the limit. -/
inductive Failure.Arises (line : Nat) (limit : LiteralFault → Prop) : Failure → Prop
  | diagnostic {reason : Reason} (early : reason.isFinal = false) :
      Arises line limit (.diagnostic ⟨line, reason⟩)
  | overflow {fault : LiteralFault} (h : limit fault) : Arises line limit (.overflow fault)

section FailsAt

variable {α β : Type} {line : Nat} {limit : LiteralFault → Prop}

/-- Every fault of the computation is one of the line. -/
def FailsAt (line : Nat) (limit : LiteralFault → Prop) (x : Except Failure α) : Prop :=
  ∀ f, x = .error f → f.Arises line limit

private theorem failsAt_ok {a : α} : FailsAt line limit (.ok a) := nofun

private theorem failsAt_overflow {fault : LiteralFault} (h : limit fault) :
    FailsAt line limit (.error (.overflow fault) : Except Failure α) := by
  intro f hf
  rw [← Except.error.inj hf]
  exact .overflow h

private theorem failsAt_fail {reason : Reason} (h : reason.isFinal = false) :
    FailsAt line limit (fail line reason : Except Failure α) := by
  intro f hf
  rw [← Except.error.inj hf]
  exact .diagnostic h

private theorem FailsAt.bind {x : Except Failure α} {g : α → Except Failure β}
    (hx : FailsAt line limit x) (hg : ∀ a, FailsAt line limit (g a)) :
    FailsAt line limit (x >>= g) := by
  intro f hf
  rcases bind_eq_error_iff.mp hf with h | ⟨a, _, h⟩
  · exact hx f h
  · exact hg a f h

private theorem FailsAt.refused {c : Prop} [Decidable c] {reason : Reason}
    {g : α → Except Failure β}
    {x : Except Failure β} (h : reason.isFinal = false) (hx : FailsAt line limit x) :
    FailsAt line limit (if c then fail line reason >>= g else x) := by
  split
  · exact failsAt_fail h
  · exact hx

theorem FailsAt.mono {limit' : LiteralFault → Prop} {x : Except Failure α}
    (hx : FailsAt line limit x) (h : ∀ fault, limit fault → limit' fault) :
    FailsAt line limit' x := by
  intro f hf
  cases hx f hf with
  | diagnostic early => exact .diagnostic early
  | overflow hover => exact .overflow (h _ hover)

end FailsAt

section Values

variable {limit : LiteralFault → Prop} (raw : String) (line : Nat)

private theorem failsAt_readQuoted : FailsAt line limit (readQuoted raw line) := by
  unfold readQuoted
  split
  · exact failsAt_ok
  · exact failsAt_fail rfl

private theorem failsAt_readSeverity : FailsAt line limit (readSeverity raw line) := by
  unfold readSeverity
  simp only
  split
  · exact failsAt_ok
  · exact failsAt_fail rfl

private theorem failsAt_readCheck : FailsAt line (Overflows raw) (readCheck raw line) := by
  unfold readCheck
  split
  · exact failsAt_fail rfl
  · next pattern flags hsplit =>
    split
    · exact failsAt_ok
    · exact failsAt_fail rfl
    · next fault _ hcompile =>
      split
      · next hoverflow => exact failsAt_overflow ⟨pattern, flags, hsplit, hcompile, hoverflow⟩
      · exact failsAt_fail rfl

private theorem Overflows.readCheck_eq {fault : LiteralFault} (h : Overflows raw fault) :
    readCheck raw line = .error (.overflow fault) := by
  obtain ⟨pattern, flags, hsplit, hcompile, hoverflow⟩ := h
  unfold readCheck
  simp only [hsplit, hcompile]
  cases fault with
  | flags => cases hoverflow
  | pattern => simp only [hoverflow, if_true]

end Values

namespace Draft

private theorem failsAt_add (d : Draft) (keyword : Keyword) (argument : String) (line : Nat) :
    FailsAt line (d.Overflows keyword argument) (d.add keyword argument line) := by
  cases huses : d.uses keyword with
  | true =>
    rw [add_of_uses huses]
    exact failsAt_fail rfl
  | false =>
    rw [add_of_not_uses huses]
    cases keyword with
    | clauseType =>
      simp only [setFirst]
      split
      · exact failsAt_fail rfl
      · exact failsAt_ok
    | require =>
      have hunset : d.required = none := by simpa [uses] using huses
      have hread := (failsAt_readCheck argument line).mono fun _ => Overflows.require hunset
      exact hread.bind fun _ => failsAt_ok
    | forbid =>
      have hunset : d.forbidden = none := by simpa [uses] using huses
      have hread := (failsAt_readCheck argument line).mono fun _ => Overflows.forbid hunset
      exact hread.bind fun _ => failsAt_ok
    | severity => exact (failsAt_readSeverity argument line).bind fun _ => failsAt_ok
    | remediation => exact (failsAt_readQuoted argument line).bind fun _ => failsAt_ok

private theorem Overflows.add_eq {d : Draft} {keyword : Keyword} {argument : String}
    {fault : LiteralFault} (h : d.Overflows keyword argument fault) (line : Nat) :
    d.add keyword argument line = .error (.overflow fault) := by
  cases h with
  | require unset literal =>
    rw [add_of_not_uses (by simp [uses, unset]), setFirst, literal.readCheck_eq]
    rfl
  | forbid unset literal =>
    rw [add_of_not_uses (by simp [uses, unset]), setFirst, literal.readCheck_eq]
    rfl

private theorem failsAt_finish (d : Draft) (limit : LiteralFault → Prop) (line : Nat) :
    FailsAt line limit (d.finish line) := by
  unfold finish
  split
  · refine FailsAt.refused rfl ?_
    split
    · exact failsAt_ok
    · exact failsAt_fail rfl
  · exact failsAt_fail rfl

end Draft

namespace State

theorem failsAt_apply (s : State) (line : Nat) (statement : Statement) :
    FailsAt line (s.Overflows statement) (s.apply line statement) := by
  unfold apply
  cases statement with
  | policy argument =>
    exact FailsAt.refused rfl ((failsAt_readQuoted argument line).bind fun _ => failsAt_ok)
  | rule argument =>
    simp only
    split
    · exact failsAt_fail rfl
    · exact FailsAt.refused rfl failsAt_ok
  | field keyword argument =>
    simp only
    split
    · next d hdraft =>
      have hadd := (d.failsAt_add keyword argument line).mono fun _ => Overflows.field hdraft
      exact hadd.bind fun _ => failsAt_ok
    · exact failsAt_fail rfl
  | close =>
    simp only
    split
    · next d _ => exact (d.failsAt_finish _ line).bind fun _ => failsAt_ok
    · exact failsAt_fail rfl
  | other text =>
    simp only
    split
    · exact failsAt_fail rfl
    · exact failsAt_fail rfl

theorem Overflows.apply_eq {s : State} {statement : Statement} {fault : LiteralFault}
    (h : s.Overflows statement fault) (line : Nat) :
    s.apply line statement = .error (.overflow fault) := by
  cases h with
  | field isOpen value =>
    unfold apply
    simp only [isOpen, value.add_eq]
    rfl

/-- A line fails with a diagnostic of its own, or its statement has a number over the limit. -/
theorem failsAt_step (s : State) (line : Nat) (raw : String) :
    FailsAt line (fun fault => ∃ statement, Statement.ofRaw? raw = some statement ∧
      s.Overflows statement fault) (s.step line raw) := by
  unfold step
  split
  · exact failsAt_ok
  · next statement hraw =>
    exact (s.failsAt_apply line statement).mono fun _ h => ⟨statement, hraw, h⟩

/-! ## Faults of a run -/

theorem run_append (s : State) (line : Nat) (before after : List String) :
    s.run line (before ++ after) =
      (s.run line before >>= fun t => t.run (line + before.length) after) := by
  induction before generalizing s line with
  | nil => rfl
  | cons raw before ih =>
    rw [List.cons_append, run, run]
    cases s.step line raw with
    | error f => rfl
    | ok t =>
      have hcount : line + (raw :: before).length = line + 1 + before.length := by
        rw [List.length_cons]
        omega
      rw [hcount]
      exact ih t (line + 1)

/-- A run fails at the first line that cannot be taken up. -/
theorem run_eq_error_iff {s : State} {line : Nat} {lines : List String} {f : Failure} :
    s.run line lines = .error f ↔ ∃ before raw after t, lines = before ++ raw :: after ∧
      s.run line before = .ok t ∧ t.step (line + before.length) raw = .error f := by
  constructor
  · intro h
    induction lines generalizing s line with
    | nil => cases h
    | cons raw lines ih =>
      rw [run] at h
      rcases bind_eq_error_iff.mp h with hstep | ⟨t, hstep, hrun⟩
      · exact ⟨[], raw, lines, s, rfl, rfl, hstep⟩
      · obtain ⟨before, raw', after, u, rfl, hbefore, hraw'⟩ := ih hrun
        refine ⟨raw :: before, raw', after, u, rfl, ?_, ?_⟩
        · rw [run, hstep]
          exact hbefore
        · have hcount : line + (raw :: before).length = line + 1 + before.length := by
            rw [List.length_cons]
            omega
          rw [hcount]
          exact hraw'
  · rintro ⟨before, raw, after, t, rfl, hbefore, hraw⟩
    rw [run_append, hbefore]
    show (t.step (line + before.length) raw >>= fun u => u.run _ after) = .error f
    exact bind_eq_error_iff.mpr (.inl hraw)

inductive Unfinished (s : State) : Reason → Prop
  | unclosed {d : Draft} (isOpen : s.draft = some d) : Unfinished s (.unclosed d.id)
  | noRules (closed : s.draft = none) (empty : s.rules = []) : Unfinished s .noRules

theorem Unfinished.isFinal {s : State} {reason : Reason} (h : s.Unfinished reason) :
    reason.isFinal = true := by
  cases h <;> rfl

private theorem finish_eq_error_iff {s : State} {lastLine : Nat} {now : String} {f : Failure} :
    s.finish lastLine now = .error f ↔
      ∃ reason, s.Unfinished reason ∧ f = .diagnostic ⟨lastLine, reason⟩ := by
  unfold finish
  cases hdraft : s.draft with
  | some d =>
    constructor
    · exact fun h => ⟨_, .unclosed hdraft, (Except.error.inj h).symm⟩
    · rintro ⟨reason, hreason, rfl⟩
      cases hreason with
      | unclosed isOpen =>
        cases hdraft.symm.trans isOpen
        rfl
      | noRules closed => cases hdraft.symm.trans closed
  | none =>
    by_cases hrules : s.rules = []
    · simp only [hrules, List.isEmpty_nil, if_true]
      constructor
      · exact fun h => ⟨_, .noRules hdraft hrules, (Except.error.inj h).symm⟩
      · rintro ⟨reason, hreason, rfl⟩
        cases hreason with
        | unclosed isOpen => cases hdraft.symm.trans isOpen
        | noRules => rfl
    · simp only [List.isEmpty_iff, if_neg hrules]
      constructor
      · intro h
        cases h
      · rintro ⟨reason, hreason, _⟩
        cases hreason with
        | unclosed isOpen => cases hdraft.symm.trans isOpen
        | noRules _ empty => exact absurd empty hrules

end State

/-- A text is refused at a line, or after all its lines were taken up. -/
theorem compile_eq_error_iff {text now : String} {f : Failure} :
    compile text now = .error f ↔ State.run {} 1 (Text.lines text) = .error f ∨
      ∃ s, State.run {} 1 (Text.lines text) = .ok s ∧
        ∃ reason, s.Unfinished reason ∧ f = .diagnostic ⟨(Text.lines text).length, reason⟩ := by
  unfold compile
  simp only [bind_eq_error_iff, State.finish_eq_error_iff]

theorem line_of_compile {text now : String} {d : Diagnostic}
    (h : compile text now = .error (.diagnostic d)) :
    1 ≤ d.line ∧ d.line ≤ (Text.lines text).length := by
  rcases compile_eq_error_iff.mp h with hrun | ⟨_, _, _, _, hd⟩
  · obtain ⟨before, raw, after, s, hlines, _, hstep⟩ := State.run_eq_error_iff.mp hrun
    cases s.failsAt_step _ raw _ hstep with
    | diagnostic =>
      simp only [hlines, List.length_append, List.length_cons]
      omega
  · cases hd
    exact ⟨List.length_pos_of_ne_nil (Text.lines_ne_nil text), le_refl _⟩

end ClauseAudit.Language
